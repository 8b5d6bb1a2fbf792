/-
Which configuration files are of the wrong shape.

* `Configuration.listed?`: what a file gives as the list of its entries.
* `Configuration.ReadsAs`: how that is read, by its shape.
* `Configuration.IsMisshapen`: it counts as given and is no list.
* `misshapen_files_are_refused`: each file with a mapping is read so, and a fault of the
  configuration is reported exactly for what is misshapen.
* `false_passes`: what counts as not given is not refused, even if it is no list.
-/
import WidgetContracts.Proofs.Entry.Isolation

namespace WidgetContracts

namespace Configuration

/-- What a mapping in the document of a file gives as the list of entries. -/
def listed? (t : Shared) (members : List (Scalar × Value)) : Option Value :=
  (find? "collections" members).map (Value.actual t)

/-- How what is given as the list of entries is read: what counts as not given as no entries, a list
as the entries that are salvaged from it, unless one of them has an identifier that cannot be
spelled, and everything else not at all. -/
inductive ReadsAs (t : Shared) : Option Value → Except ConfigFault (List Entry) → Prop where
  | absent : ReadsAs t none (.ok [])
  | notGiven {v : Value} (falsy : v.isTruthy = false) : ReadsAs t (some v) (.ok [])
  | list {vs : List Value} {s : Traced Salvaged} (salvaged : salvageLabelled t vs = .ok s) :
      ReadsAs t (some (.list vs)) (.ok s.value.entries)
  | unspelled {vs : List Value} {fault : SpellingFault}
      (unspelled : salvageLabelled t vs = .error fault) :
      ReadsAs t (some (.list vs)) (.error (.label fault))
  | refused {v : Value} (truthy : v.isTruthy = true) (noList : ∀ vs, v ≠ .list vs) :
      ReadsAs t (some v) (.error .notList)

/-- What is given as the list of entries counts as given, and is no list. -/
def IsMisshapen (o : Option Value) : Prop :=
  ∃ v, o = some v ∧ v.isTruthy = true ∧ ∀ vs, v ≠ .list vs

/-- A fault of the configuration is reported exactly for what is misshapen. -/
lemma ReadsAs.isReported_iff {t : Shared} {o : Option Value} {r : Except ConfigFault (List Entry)}
    (h : ReadsAs t o r) :
    (∃ fault, r = .error fault ∧ fault.isReported = true) ↔ IsMisshapen o := by
  constructor
  · rintro ⟨fault, hfault, hreported⟩
    cases h with
    | absent | notGiven | list => cases hfault
    | unspelled =>
        obtain rfl := Except.error.inj hfault
        cases hreported
    | refused htruthy hlist => exact ⟨_, rfl, htruthy, hlist⟩
  · rintro ⟨v, rfl, htruthy, hlist⟩
    cases h with
    | notGiven hfalsy => cases htruthy.symm.trans hfalsy
    | list | unspelled => exact absurd rfl (hlist _)
    | refused => exact ⟨.notList, rfl, rfl⟩

section

variable {d : Document} {members : List (Scalar × Value)}

/-- The documents of the entries, by what is given as their list. -/
lemma entriesIn_of_map (hroot : d.root.actual d.shared = .map members) :
    entriesIn d = match (listed? d.shared members).filter Value.isTruthy with
      | none => .ok []
      | some (.list vs) => .ok vs
      | some _ => .error .notList := by
  rw [entriesIn, hroot]
  rfl

lemma readsAs_salvageIn (hroot : d.root.actual d.shared = .map members) :
    ReadsAs d.shared (listed? d.shared members) ((salvageIn d).map (·.value.entries)) := by
  have hentries := entriesIn_of_map hroot
  cases hlisted : listed? d.shared members with
  | none =>
      rw [hlisted] at hentries
      rw [salvageIn, hentries]
      exact .absent
  | some v =>
      rw [hlisted, Option.filter_some] at hentries
      cases htruthy : v.isTruthy with
      | false =>
          rw [htruthy, if_neg Bool.false_ne_true] at hentries
          rw [salvageIn, hentries]
          exact .notGiven htruthy
      | true =>
          rw [htruthy, if_pos rfl] at hentries
          rw [salvageIn, hentries]
          cases v with
          | list vs =>
              change ReadsAs _ _ (((salvageLabelled d.shared vs).mapError .label).map _)
              cases hsalvage : salvageLabelled d.shared vs with
              | ok s => exact .list hsalvage
              | error fault => exact .unspelled hsalvage
          | scalar | map | set | pair | shared =>
              refine .refused htruthy fun vs hlist => ?_
              cases hlist

end

end Configuration

/-- **Configurations of the wrong shape are refused**: each file whose document is a mapping is read
by the shape of what it gives as the list of its entries, and a fault of the configuration is
reported if and only if that counts as given and is no list; of all other files with a mapping the
entries are those that are salvaged from the list, and none where it is not given. -/
theorem misshapen_files_are_refused (path : String) (bytes : List UInt8) (d : Document)
    (members : List (Scalar × Value)) (hdocument : Markup.document (.ofBytes bytes) = .ok d)
    (hroot : d.root.actual d.shared = .map members) :
    Configuration.ReadsAs d.shared (Configuration.listed? d.shared members)
        (Configuration.load path (some bytes)).value ∧
      ((∃ fault, (Configuration.load path (some bytes)).value = .error fault ∧
          fault.isReported = true) ↔
        Configuration.IsMisshapen (Configuration.listed? d.shared members)) := by
  have hreads := Configuration.readsAs_salvageIn hroot
  rw [← Configuration.load_value_of_document path hdocument] at hreads
  exact ⟨hreads, hreads.isReported_iff⟩

/-! ### Files that give a word, a list and a falsehood -/

/-- The document of a file is built from its nodes. -/
lemma document_of_nodes {bytes : List UInt8} {g : Markup.Graph} {d : Document}
    (hnodes : Markup.Graph.ofTokens? (Markup.tokens (.ofBytes bytes)) = .ok (some g))
    (hbuilt : g.document = .ok d) : Markup.document (.ofBytes bytes) = .ok d := by
  rw [Markup.document, hnodes]
  exact hbuilt

namespace Sample

/-- A file that gives a word as the list of its entries. -/
def wordFile : List UInt8 := Text.Utf8.encode "collections: posts".toList

/-- A file that gives a falsehood. -/
def falseFile : List UInt8 := Text.Utf8.encode "collections: false".toList

/-- The nodes of a file that gives a scalar. -/
def scalarGraph (k : Markup.Kind) (word : String) : Markup.Graph :=
  #[.map .map [(1, 2)], .scalar .str (.text "collections".toList), .scalar k (.text word.toList)]

/-- The document of a file that gives a scalar. -/
def scalarDocument (v : Value) : Document :=
  ⟨.shared 0, #[.map [(.text "collections", v)], .text "collections", v]⟩

lemma document_wordFile :
    Markup.document (.ofBytes wordFile) = .ok (scalarDocument (.text "posts")) := by
  have hnodes : Markup.Graph.ofTokens? (Markup.tokens (.ofBytes wordFile)) =
      .ok (some (scalarGraph .str "posts")) := by decide +kernel
  exact document_of_nodes hnodes (by with_unfolding_all rfl)

lemma document_falseFile :
    Markup.document (.ofBytes falseFile) = .ok (scalarDocument (.bool false)) := by
  have hnodes : Markup.Graph.ofTokens? (Markup.tokens (.ofBytes falseFile)) =
      .ok (some (scalarGraph .bool "false")) := by decide +kernel
  exact document_of_nodes hnodes (by with_unfolding_all rfl)

end Sample

theorem misshapen_files_are_refused_sample :
    (∃ fault, (Configuration.load "collections.yaml" (some Sample.wordFile)).value =
        .error fault ∧ fault.isReported = true) ∧
      ¬∃ fault, (Configuration.load "collections.yaml" (some Sample.cleanFile)).value =
        .error fault ∧ fault.isReported = true := by
  obtain ⟨-, hword⟩ := misshapen_files_are_refused "collections.yaml" _ _ _
    Sample.document_wordFile rfl
  obtain ⟨-, hclean⟩ := misshapen_files_are_refused "collections.yaml" _ _ _
    Sample.document_cleanFile rfl
  refine ⟨hword.mpr ⟨.text "posts", rfl, rfl, nofun⟩, fun hreported => ?_⟩
  obtain ⟨v, hv, -, hlist⟩ := hclean.mp hreported
  exact hlist _ (Option.some.inj hv).symm

/-- What is no list and not null need not be refused: a falsehood counts as not given. -/
theorem false_passes : ¬∀ (path : String) (bytes : List UInt8) (d : Document)
    (members : List (Scalar × Value)) (v : Value),
    Markup.document (.ofBytes bytes) = .ok d → d.root.actual d.shared = .map members →
    Configuration.listed? d.shared members = some v → v ≠ .null → (∀ vs, v ≠ .list vs) →
    ∃ fault, (Configuration.load path (some bytes)).value = .error fault ∧
      fault.isReported = true := by
  intro h
  obtain ⟨fault, hfault, -⟩ := h "collections.yaml" _ _ _ (.bool false)
    Sample.document_falseFile rfl rfl nofun nofun
  cases (Configuration.load_value_of_document _ Sample.document_falseFile).symm.trans hfault

end WidgetContracts
