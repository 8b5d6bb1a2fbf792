/-
Which bad configuration files are reported as such.

* `Escapes`: the faults of a file that are not reported as faults of the configuration, each with
  what in the file causes it.
* `document_ends`: how the reading of a text ends.
* `bad_files_are_reported_unless`: a file gives entries, or its fault is reported, or one of these
  causes is in it.
* `bad_files_escape`: files that are not reported.
-/
import WidgetContracts.Configuration
import WidgetContracts.Proofs.Markup.Building
import WidgetContracts.Proofs.Markup.Nodes
import WidgetContracts.Proofs.Markup.Scan

namespace WidgetContracts

open Markup

/-! ### Causes -/

/-- The faults of a file that end the reading as they are, by their causes: bytes that encode no
text; a token that writes a number which is none; lists and mappings too deep inside each other, of
which there are enough; a node without a value; and an entry whose identifier cannot be spelled. -/
inductive Escapes (bytes : List UInt8) : ConfigFault → Prop where
  | undecodable (h : Text.Utf8.decode? bytes = none) : Escapes bytes (.markup .notText)
  | written (h : .broken .badValue ∈ tokens (.ofBytes bytes)) : Escapes bytes (.markup .badValue)
  | nested (h : Reader.maxDepth ≤ (tokens (.ofBytes bytes)).countP Token.opens) :
      Escapes bytes (.markup .tooDeep)
  | valueless {g : Graph} {fault : Fault}
      (nodes : Graph.ofTokens? (tokens (.ofBytes bytes)) = .ok (some g)) (h : g.Valueless fault) :
      Escapes bytes (.markup fault)
  | unspelled {d : Document} {vs : List Value} {v : Value} {fault : SpellingFault}
      (document : Markup.document (.ofBytes bytes) = .ok d)
      (entries : Configuration.entriesIn d = .ok vs) (mem : v ∈ vs)
      (h : labelFault? d.shared v = some fault) : Escapes bytes (.label fault)

/-- A fault is reported, or there is a cause for it in the file. -/
def IsExplained (bytes : List UInt8) (fault : ConfigFault) : Prop :=
  fault.isReported = true ∨ Escapes bytes fault

/-- A fault with which the tokens break off is explained by one of them, or by the bytes. -/
lemma isExplained_of_scanFault {bytes : List UInt8} {fault : Fault}
    (h : .broken fault ∈ tokens (.ofBytes bytes)) : IsExplained bytes (.markup fault) := by
  rcases isScanFault_of_broken_mem_tokens h with rfl | rfl | hbeyond
  · exact .inl rfl
  · exact .inr (.written h)
  · rcases Source.ofBytes_beyond hbeyond with rfl | ⟨rfl, hdecode⟩
    · exact .inl rfl
    · exact .inr (.undecodable hdecode)

/-! ### How the reading of a file ends -/

/-- The reading of a file ends with a document, or with a fault that is explained. -/
lemma document_ends (bytes : List UInt8) :
    EndsIn (fun fault => IsExplained bytes (.markup fault)) (fun _ => True)
      (Markup.document (.ofBytes bytes)) := by
  have hnodes := Graph.ofTokens?_ends (tokens (.ofBytes bytes))
  rw [Markup.document]
  cases hgraph : Graph.ofTokens? (tokens (.ofBytes bytes)) with
  | error fault =>
      rw [hgraph] at hnodes
      rcases hnodes with rfl | hbroken | ⟨rfl, hdeep⟩
      · exact .error (.inl rfl)
      · exact .error (isExplained_of_scanFault hbroken)
      · exact .error (.inr (.nested hdeep))
  | ok nodes =>
      cases nodes with
      | none => trivial
      | some g =>
          refine (Graph.document_ends g).mono (fun fault hfault => ?_) fun _ => id
          rcases hfault with rfl | hvalueless
          · exact .inl rfl
          · exact .inr (.valueless hgraph hvalueless)

lemma entriesIn_ends (d : Document) :
    EndsIn (fun fault => fault.isReported = true) (fun _ => True) (Configuration.entriesIn d) := by
  rw [Configuration.entriesIn]
  split
  · trivial
  · split
    · trivial
    · trivial
    · exact .error rfl
  · exact .error rfl

/-- What is salvaged from a file ends with entries, or with a fault that is explained. -/
lemma salvageIn_ends {bytes : List UInt8} {d : Document}
    (hd : Markup.document (.ofBytes bytes) = .ok d) :
    EndsIn (IsExplained bytes) (fun _ => True) (Configuration.salvageIn d) := by
  rw [Configuration.salvageIn]
  cases hvs : Configuration.entriesIn d with
  | error fault =>
      have hreported := entriesIn_ends d
      rw [hvs] at hreported
      exact .error (.inl hreported)
  | ok vs =>
      have hlabels : EndsIn (IsExplained bytes) (fun _ => True)
          ((salvageLabelled d.shared vs).mapError .label) := by
        rw [salvageLabelled]
        split
        · next fault hfault =>
            obtain ⟨v, hv, hspelled⟩ := List.exists_of_findSome?_eq_some hfault
            exact .error (.inr (.unspelled hd hvs hv hspelled))
        · trivial
      exact hlabels

/-- The reading of a file ends with entries, or with a fault that is explained. -/
lemma entries_end (bytes : List UInt8) :
    EndsIn (IsExplained bytes) (fun _ => True)
      ((Markup.document (.ofBytes bytes)).mapError .markup >>= Configuration.salvageIn) := by
  have hends := document_ends bytes
  cases hd : Markup.document (.ofBytes bytes) with
  | error fault =>
      rw [hd] at hends
      exact .error hends
  | ok d => exact salvageIn_ends hd

/-- **A bad file is reported, unless it holds a cause for another fault.** Whatever the bytes of a
file are, reading it gives entries, or a fault that is reported as one of the configuration, or one
that its bytes explain: they encode no text; they write a value that there is none of; they hold
enough lists and mappings to nest them too deep; a node has no value of its kind; or the identifier
of an entry cannot be spelled. -/
theorem bad_files_are_reported_unless (path : String) (bytes : List UInt8) :
    (∃ es, (Configuration.load path (some bytes)).value = .ok es) ∨
      ∃ fault, (Configuration.load path (some bytes)).value = .error fault ∧
        (fault.isReported = true ∨ Escapes bytes fault) := by
  have hends := entries_end bytes
  rw [Configuration.load_value]
  cases hread : (Markup.document (.ofBytes bytes)).mapError .markup >>=
      Configuration.salvageIn with
  | error fault =>
      rw [hread] at hends
      exact .inr ⟨fault, rfl, hends⟩
  | ok t => exact .inl ⟨t.value.entries, rfl⟩

/-! ### Files that are not reported -/

lemma load_of_document_error {path : String} {bytes : List UInt8} {fault : Fault}
    (h : Markup.document (.ofBytes bytes) = .error fault) :
    (Configuration.load path (some bytes)).value = .error (.markup fault) := by
  rw [Configuration.load_value, h]
  rfl

namespace Sample

/-- A file with a day that there is none of. -/
def impossibleDay : List UInt8 := Text.Utf8.encode "since: 2024-02-30".toList

/-- A file with a word that is marked as a day. -/
def wordForDay : List UInt8 := Text.Utf8.encode "since: !!timestamp soon".toList

/-- The nodes of a file with one member. -/
def sinceGraph (k : Kind) (word : String) : Graph :=
  #[.map .map [(1, 2)], .scalar .str (.text "since".toList), .scalar k (.text word.toList)]

lemma document_strayByte : Markup.document (.ofBytes [0xff]) = .error .notText := by
  have hnodes : Graph.ofTokens? (tokens (.ofBytes [0xff])) = .error .notText := by
    decide +kernel
  rw [Markup.document, hnodes]
  rfl

lemma document_impossibleDay : Markup.document (.ofBytes impossibleDay) = .error .badValue := by
  have hnodes : Graph.ofTokens? (tokens (.ofBytes impossibleDay)) =
      .ok (some (sinceGraph .timestamp "2024-02-30")) := by decide +kernel
  have hbuilt : (sinceGraph .timestamp "2024-02-30").document = .error .badValue := by
    with_unfolding_all rfl
  rw [Markup.document, hnodes]
  exact hbuilt

lemma document_wordForDay : Markup.document (.ofBytes wordForDay) = .error .notDay := by
  have hnodes : Graph.ofTokens? (tokens (.ofBytes wordForDay)) =
      .ok (some (sinceGraph .timestamp "soon")) := by decide +kernel
  have hbuilt : (sinceGraph .timestamp "soon").document = .error .notDay := by
    with_unfolding_all rfl
  rw [Markup.document, hnodes]
  exact hbuilt

end Sample

/-- The byte that no text starts with, a day that there is none of, and a word for a day end the
reading with faults that are not reported. -/
theorem bad_files_escape :
    ((Configuration.load "collections.config.yaml" (some [0xff])).value =
          .error (.markup .notText) ∧ (ConfigFault.markup .notText).isReported = false) ∧
      ((Configuration.load "collections.config.yaml" (some Sample.impossibleDay)).value =
          .error (.markup .badValue) ∧ (ConfigFault.markup .badValue).isReported = false) ∧
      (Configuration.load "collections.config.yaml" (some Sample.wordForDay)).value =
          .error (.markup .notDay) ∧ (ConfigFault.markup .notDay).isReported = false :=
  ⟨⟨load_of_document_error Sample.document_strayByte, rfl⟩,
    ⟨load_of_document_error Sample.document_impossibleDay, rfl⟩,
    load_of_document_error Sample.document_wordForDay, rfl⟩

end WidgetContracts
