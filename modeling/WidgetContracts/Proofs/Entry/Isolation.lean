/-
Bad entries do not touch the others.

* `CalledBy`: what a document in a list is called: by its own identifier, or by its place.
* `Dropped`: what is told about a document that is left out, as an error and as a warning.
* `salvageFrom_entries`: the entries of a list are those of its documents, each read alone.
* `salvageFrom_dropped`: one error and one warning for each document that is left out.
* `load_of_entriesIn`: the entries of a file are those that are salvaged from it.
* `bad_entries_are_isolated`: all that, and a file has the same entries without the bad ones.
-/
import WidgetContracts.Configuration
import WidgetContracts.Proofs.Entry.Strictness
import WidgetContracts.Proofs.Reading.Sharing

namespace WidgetContracts

open Reading

/-- What a document at index `i` of a list is called: by its own identifier, unless that is null or
empty, and else by its place. -/
inductive CalledBy (t : Shared) (v : Value) (i : Nat) : String → Prop where
  | own {id : Value} (stands : (v.actual t).get? "collectionId" = some id) (not_null : id ≠ .null)
      (not_empty : id ≠ .text "") : CalledBy t v i (id.label t)
  | place (none_stands : ∀ id, (v.actual t).get? "collectionId" = some id →
      id = .null ∨ id = .text "") : CalledBy t v i ("collections[" ++ toString i ++ "]")

/-- What is told about a document that is left out: what it is called, and why it is no entry. -/
structure Dropped where
  label : String
  trouble : EntryTrouble

/-- The error about a document that is left out. -/
def Dropped.error (d : Dropped) : String := d.label ++ ": " ++ d.trouble.text

/-- The warning about a document that is left out. -/
def Dropped.record (d : Dropped) : Record :=
  .warning d.label ("Dropping collection entry that failed to parse: " ++ d.trouble.text)

/-- Whether a document is an entry. -/
def isEntry (t : Shared) (v : Value) : Bool := (Entry.read t v).isOk

/-- The entry in a document, if it is one. -/
def entryIn (t : Shared) (v : Value) : List Entry := (Entry.read t v).toOption.toList

/-! ### One by one -/

section

variable {t : Shared} {v : Value} {i : Nat}

lemma isEntry_iff : isEntry t v = true ↔ ∃ e, Entry.read t v = .ok e := by
  rw [isEntry]
  cases Entry.read t v with
  | ok e => exact ⟨fun _ => ⟨e, rfl⟩, fun _ => rfl⟩
  | error ps => exact ⟨nofun, nofun⟩

lemma entryIn_of_not_isEntry (h : isEntry t v = false) : entryIn t v = [] := by
  rw [isEntry] at h
  rw [entryIn]
  cases hv : Entry.read t v with
  | ok e =>
      rw [hv] at h
      cases h
  | error ps => rfl

/-- A document that is no entry is not read as one. -/
lemma Entry.exists_read_eq_error {trouble : EntryTrouble} (h : ofValue t v = .error trouble) :
    ∃ ps, read t v = .error ps := by
  cases hread : read t v with
  | ok e => cases h.symm.trans (ofValue_eq_ok_iff.mpr hread)
  | error ps => exact ⟨ps, rfl⟩

lemma calledBy_entryLabel (t : Shared) (v : Value) (i : Nat) :
    CalledBy t v i (entryLabel t i v) := by
  rw [entryLabel]
  cases hgiven : givenId? t v with
  | none =>
      refine .place fun id hid => ?_
      rw [givenId?, hid] at hgiven
      split at hgiven
      · cases ‹some id = none›
      · exact .inl (Option.some.inj ‹_›)
      · exact .inr (Option.some.inj ‹_›)
      · cases hgiven
  | some id =>
      have hid := get?_of_givenId? hgiven
      rw [givenId?, hid] at hgiven
      refine .own hid ?_ ?_
      · rintro rfl
        cases hgiven
      · rintro rfl
        cases hgiven

/-- What a document that a JSON text can hold is called can be spelled, also with the collections of
the document in a table, if they nest no deeper than spelling goes. -/
lemma labelFault?_eq_none_of_jsonWithin (h : v.JsonWithin t (Value.maxSpelledDepth + 1)) :
    labelFault? t v = none := by
  rw [labelFault?, Option.bind_eq_none_iff]
  intro id hgiven
  have hget := get?_of_givenId? hgiven
  cases h with
  | map hactual _ hvalues =>
      rw [hactual] at hget
      exact (of_find? hvalues hget).spellingFault?_eq_none
  | list hactual =>
      rw [hactual] at hget
      cases hget
  | scalar => cases hget

/-- The entries of a list are those of its documents, each read alone. -/
lemma salvageFrom_entries (t : Shared) (i : Nat) (vs : List Value) :
    (salvageFrom t i vs).value.entries = vs.flatMap (entryIn t) := by
  induction vs generalizing i with
  | nil => rfl
  | cons v r ih =>
      rw [List.flatMap_cons, ← ih (i + 1), entryIn]
      cases hv : Entry.ofValue t v with
      | ok e =>
          rw [salvageFrom_cons_of_ok hv, Entry.ofValue_eq_ok_iff.mp hv]
          rfl
      | error trouble =>
          rw [salvageFrom_cons_of_error hv]
          obtain ⟨ps, hps⟩ := Entry.exists_read_eq_error hv
          rw [hps]
          rfl

/-- Documents that are no entries give none. -/
lemma flatMap_entryIn_filter (t : Shared) (vs : List Value) :
    (vs.filter (isEntry t)).flatMap (entryIn t) = vs.flatMap (entryIn t) := by
  induction vs with
  | nil => rfl
  | cons v r ih =>
      rw [List.flatMap_cons, ← ih]
      cases hv : isEntry t v with
      | true => rw [List.filter_cons_of_pos hv, List.flatMap_cons]
      | false =>
          rw [List.filter_cons_of_neg (Bool.not_eq_true _ ▸ hv), entryIn_of_not_isEntry hv,
            List.nil_append]

/-- There are one error and one warning for each document that is left out. -/
lemma salvageFrom_dropped (t : Shared) (i : Nat) (vs : List Value) :
    ∃ ds : List Dropped, List.Forall₂ (fun u d => CalledBy t u.1 u.2 d.label ∧
        Entry.ofValue t u.1 = .error d.trouble) (refusedFrom t i vs) ds ∧
      (salvageFrom t i vs).value.errors = ds.map Dropped.error ∧
      (salvageFrom t i vs).records = ds.map Dropped.record := by
  induction vs generalizing i with
  | nil => exact ⟨[], .nil, rfl, rfl⟩
  | cons v r ih =>
      obtain ⟨ds, hds, herrors, hrecords⟩ := ih (i + 1)
      cases hv : Entry.ofValue t v with
      | ok e =>
          rw [salvageFrom_cons_of_ok hv, refusedFrom_cons_of_ok (Entry.ofValue_eq_ok_iff.mp hv),
            salvageFrom, hv]
          exact ⟨ds, hds, herrors, (List.append_nil _).trans hrecords⟩
      | error trouble =>
          obtain ⟨ps, hps⟩ := Entry.exists_read_eq_error hv
          rw [salvageFrom_cons_of_error hv, refusedFrom_cons_of_error hps, salvageFrom, hv]
          refine ⟨⟨entryLabel t i v, trouble⟩ :: ds, .cons ⟨calledBy_entryLabel t v i, hv⟩ hds,
            ?_, ?_⟩
          · rw [List.map_cons, ← herrors]
            rfl
          · rw [List.map_cons, ← hrecords]
            exact congrArg (droppedRecord (entryLabel t i v) trouble :: ·) (List.append_nil _)

/-- Each document of a list gives an entry or an error. -/
lemma salvageFrom_length (t : Shared) (i : Nat) (vs : List Value) :
    (salvageFrom t i vs).value.entries.length + (salvageFrom t i vs).value.errors.length =
      vs.length := by
  induction vs generalizing i with
  | nil => rfl
  | cons v r ih =>
      have hr := ih (i + 1)
      cases hv : Entry.ofValue t v with
      | ok e =>
          simp only [salvageFrom_cons_of_ok hv, List.length_cons]
          omega
      | error trouble =>
          simp only [salvageFrom_cons_of_error hv, List.length_cons]
          omega

end

/-! ### Files -/

section

variable {t u : Shared} {vs ws : List Value}

/-- What looks like entries is read as these. -/
lemma forall₂_read_of_looksAlike (h : List.Forall₂ (LooksLike t u) vs ws)
    (hvs : ∀ v ∈ vs, isEntry t v = true) : ∃ es : List Entry, vs.flatMap (entryIn t) = es ∧
      List.Forall₂ (fun w e => Entry.read u w = .ok e) ws es := by
  induction h with
  | nil => exact ⟨[], rfl, .nil⟩
  | @cons v w _ _ hvw _ ih =>
      rw [List.forall_mem_cons] at hvs
      obtain ⟨e, he⟩ := isEntry_iff.mp hvs.1
      obtain ⟨es, hes, hws⟩ := ih hvs.2
      have hhead : entryIn t v = [e] := by
        rw [entryIn, he]
        rfl
      exact ⟨e :: es, by rw [List.flatMap_cons, hhead, hes]; rfl,
        .cons (Entry.read_of_looksLike hvw he) hws⟩

section

variable {path : String} {bytes : List UInt8} {d : Document}

/-- A file has the entries that are salvaged from it. -/
lemma load_of_entriesIn (hdocument : Markup.document (.ofBytes bytes) = .ok d)
    (hentries : Configuration.entriesIn d = .ok vs)
    (hsalvage : salvageLabelled d.shared vs = .ok (salvage d.shared vs)) :
    (Configuration.load path (some bytes)).value = .ok (salvage d.shared vs).value.entries := by
  have hin : Configuration.salvageIn d = .ok (salvage d.shared vs) := by
    rw [Configuration.salvageIn, hentries, bind_eq_ok_iff]
    exact ⟨vs, rfl, mapError_eq_ok_iff.mpr hsalvage⟩
  rw [Configuration.load_value_of_document path hdocument, hin]
  rfl

end

end

/-! ### The bad entries of a list and of a file -/

/-- **Bad entries do not touch the others.** All that JSON texts can hold is read one by one; each
document gives an entry or an error, and each error a warning, which both name the document by its
own identifier or by its place in the whole list; the entries are those that the documents give
alone, in order, so that they are the same for all lists that differ in documents that are no
entries. And a file has the same entries as one from which the documents that are no entries are
deleted, however both share their collections, if what these documents are called can be spelled. -/
theorem bad_entries_are_isolated :
    (∀ (t : Shared) (vs : List Value),
      (∀ v ∈ vs, v.IsJson ∨ v.JsonWithin t (Value.maxSpelledDepth + 1) → labelFault? t v = none) ∧
      ((∀ v ∈ vs, labelFault? t v = none) → salvageLabelled t vs = .ok (salvage t vs)) ∧
      (salvage t vs).value.entries.length + (salvage t vs).value.errors.length = vs.length ∧
      (∃ ds : List Dropped, List.Forall₂ (fun u d => CalledBy t u.1 u.2 d.label ∧
          Entry.ofValue t u.1 = .error d.trouble) (refused t vs) ds ∧
        (salvage t vs).value.errors = ds.map Dropped.error ∧
        (salvage t vs).records = ds.map Dropped.record) ∧
      (salvage t vs).value.entries = (vs.flatMap fun v => (salvage t [v]).value.entries) ∧
      (∀ v ∈ vs, (salvage t [v]).value.entries = (Entry.read t v).toOption.toList) ∧
      ∀ ws, ws.filter (isEntry t) = vs.filter (isEntry t) →
        (salvage t ws).value.entries = (salvage t vs).value.entries) ∧
    ∀ (path : String) (bytes bytes' : List UInt8) (d d' : Document) (vs ws : List Value),
      Markup.document (.ofBytes bytes) = .ok d → Configuration.entriesIn d = .ok vs →
      Markup.document (.ofBytes bytes') = .ok d' → Configuration.entriesIn d' = .ok ws →
      List.Forall₂ (LooksLike d.shared d'.shared) (vs.filter (isEntry d.shared)) ws →
      ∃ es, (Configuration.load path (some bytes')).value = .ok es ∧
        ((∀ v ∈ vs, labelFault? d.shared v = none) →
          (Configuration.load path (some bytes)).value = .ok es) := by
  refine ⟨fun t vs => ?_, fun path bytes bytes' d d' vs ws hd hvs hd' hws hlooks => ?_⟩
  · have hentries : ∀ us, (salvage t us).value.entries = us.flatMap (entryIn t) :=
      salvageFrom_entries t 0
    have hsingle : ∀ v, (salvage t [v]).value.entries = entryIn t v := fun v => by
      rw [hentries, List.flatMap_singleton]
    refine ⟨fun v _ hjson => ?_, salvageLabelled_of_forall, salvageFrom_length t 0 vs,
      salvageFrom_dropped t 0 vs, ?_, fun v _ => hsingle v, fun ws hws => ?_⟩
    · rcases hjson with hjson | hjson
      · exact labelFault?_eq_none_of_isJson hjson t
      · exact labelFault?_eq_none_of_jsonWithin hjson
    · rw [hentries]
      exact congrArg (vs.flatMap ·) (funext fun v => (hsingle v).symm)
    · calc (salvage t ws).value.entries
          = (ws.filter (isEntry t)).flatMap (entryIn t) := by rw [hentries, flatMap_entryIn_filter]
        _ = (vs.filter (isEntry t)).flatMap (entryIn t) := by rw [hws]
        _ = (salvage t vs).value.entries := by rw [hentries, flatMap_entryIn_filter]
  · obtain ⟨es, hes, hread⟩ := forall₂_read_of_looksAlike hlooks fun v hv =>
      (List.mem_filter.mp hv).2
    have hvalue : (salvage d'.shared ws).value = ⟨es, []⟩ := salvageFrom_value_eq_iff.mpr hread
    refine ⟨es, ?_, fun hspelled => ?_⟩
    · rw [load_of_entriesIn hd' hws (salvageLabelled_of_forall₂ hread), hvalue]
    · rw [load_of_entriesIn hd hvs (salvageLabelled_of_forall hspelled), ← hes,
        flatMap_entryIn_filter]
      exact congrArg Except.ok (salvageFrom_entries d.shared 0 vs)

/-! ### A file with a bad entry, and the same file without it -/

namespace Sample

/-- A file whose first entry is a number. -/
def strayFile : List UInt8 := Text.Utf8.encode "collections: [5, {collectionId: a}]".toList

/-- The file without it. -/
def cleanFile : List UInt8 := Text.Utf8.encode "collections: [{collectionId: a}]".toList

/-- The nodes of the first file. -/
def strayGraph : Markup.Graph :=
  #[.map .map [(1, 2)], .scalar .str (.text "collections".toList), .list .seq [3, 4],
    .scalar .int (.text ['5']), .map .map [(5, 6)], .scalar .str (.text "collectionId".toList),
    .scalar .str (.text ['a'])]

/-- The nodes of the other. -/
def cleanGraph : Markup.Graph :=
  #[.map .map [(1, 2)], .scalar .str (.text "collections".toList), .list .seq [3],
    .map .map [(4, 5)], .scalar .str (.text "collectionId".toList), .scalar .str (.text ['a'])]

/-- The document in the first file. -/
def strayDocument : Document :=
  ⟨.shared 0, #[.map [(.text "collections", .shared 2)], .text "collections",
    .list [.int 5, .shared 4], .int 5, .map [(.text "collectionId", .text "a")],
    .text "collectionId", .text "a"]⟩

/-- The document in the other. -/
def cleanDocument : Document :=
  ⟨.shared 0, #[.map [(.text "collections", .shared 2)], .text "collections", .list [.shared 3],
    .map [(.text "collectionId", .text "a")], .text "collectionId", .text "a"]⟩

lemma document_strayFile : Markup.document (.ofBytes strayFile) = .ok strayDocument := by
  have hgraph : Markup.Graph.ofTokens? (Markup.tokens (.ofBytes strayFile)) =
      .ok (some strayGraph) := by decide +kernel
  have hbuilt : strayGraph.document = .ok strayDocument := by with_unfolding_all rfl
  rw [Markup.document, hgraph]
  exact hbuilt

lemma document_cleanFile : Markup.document (.ofBytes cleanFile) = .ok cleanDocument := by
  have hgraph : Markup.Graph.ofTokens? (Markup.tokens (.ofBytes cleanFile)) =
      .ok (some cleanGraph) := by decide +kernel
  have hbuilt : cleanGraph.document = .ok cleanDocument := by with_unfolding_all rfl
  rw [Markup.document, hgraph]
  exact hbuilt

/-- The entry looks the same in both documents, where it has different numbers. -/
lemma looksLike_entry :
    LooksLike strayDocument.shared cleanDocument.shared (.shared 4) (.shared 3) := fun
  | 0 | 1 | _ + 2 => rfl

end Sample

theorem bad_entries_are_isolated_sample :
    (∃ s, salvageLabelled #[] Sample.mixedEntries = .ok s ∧
        s.value.entries.length + s.value.errors.length = 3 ∧
        s.value.entries = (salvage #[] Sample.goodEntries).value.entries) ∧
      ∃ es, (Configuration.load "collections.yaml" (some Sample.cleanFile)).value = .ok es ∧
        (Configuration.load "collections.yaml" (some Sample.strayFile)).value = .ok es := by
  obtain ⟨hlists, hfiles⟩ := bad_entries_are_isolated
  obtain ⟨hspelled, hreads, hlength, -, -, -, hsame⟩ := hlists #[] Sample.mixedEntries
  have hmixed : ∀ v ∈ Sample.mixedEntries, labelFault? #[] v = none :=
    fun v hv => hspelled v hv (.inl (Sample.isJson_mixedEntries v hv))
  obtain ⟨es, hclean, hstray⟩ := hfiles "collections.yaml" Sample.strayFile Sample.cleanFile _ _
    [.int 5, .shared 4] [.shared 3] Sample.document_strayFile rfl Sample.document_cleanFile rfl
    (.cons Sample.looksLike_entry .nil)
  have hstrayLabels : ∀ v ∈ [.int 5, .shared 4],
      labelFault? Sample.strayDocument.shared v = none := by
    simp only [List.forall_mem_cons]
    exact ⟨rfl, rfl, List.forall_mem_nil _⟩
  exact ⟨⟨_, hreads hmixed, hlength, (hsame Sample.goodEntries rfl).symm⟩, es, hclean,
    hstray hstrayLabels⟩

end WidgetContracts
