/-
A list of entries read at once, where one bad entry refuses the list, and read one by one, where it
is left out.

* `Problem.text_ofEntry`: how the text of a problem of an entry reads in a whole configuration.
* `refusedFrom`, `refused`: the documents of a list that are no entries, with their indices.
* `salvageFrom_value_eq_iff`: nothing is left out exactly when all documents are entries.
* `salvageFrom_errors`: one error for each document that is left out, which names it and all that is
  wrong with it.
* `labelFault?_eq_none_of_read`, `labelFault?_eq_none_of_isJson`: what entries and the documents of
  JSON texts are called can be spelled.
* `readings_agree`: both ways accept the same lists, with the same entries; and where they refuse
  one, they report the same problems, apart from the places.
-/
import WidgetContracts.Entry.Salvage
import WidgetContracts.Proofs.Document.Spelling
import WidgetContracts.Proofs.Reading.Keys
import WidgetContracts.Proofs.Reading.Written

namespace WidgetContracts

open Reading

/-! ### Places within a configuration -/

namespace Reading

/-- A problem of the entry at index `i`, seen from the whole configuration. -/
def Problem.ofEntry (i : Nat) (p : Problem) : Problem :=
  (p.under (.index i)).under (.key "collections")

/-- Seen from the whole configuration, a problem has the place of its entry in front of its own. -/
lemma Problem.text_ofEntry {i : Nat} {p : Problem} (h : p.place ≠ []) :
    (p.ofEntry i).text = "collections." ++ toString i ++ "." ++ p.text := by
  obtain ⟨place, cause⟩ := p
  obtain ⟨s, r, rfl⟩ := List.exists_cons_of_ne_nil h
  have hdot : "collections" ++ "." = "collections." := rfl
  simp only [Problem.text, ofEntry, under, List.map_cons, String.intercalate_cons_cons, Step.text,
    ← String.append_assoc, hdot]

end Reading

/-! ### Documents that are no entries -/

/-- The documents that are no entries, with their indices, the first of which is `i`. -/
def refusedFrom (t : Shared) (i : Nat) (vs : List Value) : List (Value × Nat) :=
  (vs.zipIdx i).filter fun u => !(Entry.read t u.1).isOk

/-- The documents of a list that are no entries, with their indices. -/
def refused (t : Shared) (vs : List Value) : List (Value × Nat) := refusedFrom t 0 vs

lemma refusedFrom_cons_of_ok {t : Shared} {i : Nat} {v : Value} {r : List Value} {e : Entry}
    (h : Entry.read t v = .ok e) : refusedFrom t i (v :: r) = refusedFrom t (i + 1) r := by
  rw [refusedFrom, List.zipIdx_cons, List.filter_cons_of_neg (by rw [h]; exact Bool.false_ne_true)]
  rfl

lemma refusedFrom_cons_of_error {t : Shared} {i : Nat} {v : Value} {r : List Value}
    {ps : List Problem} (h : Entry.read t v = .error ps) :
    refusedFrom t i (v :: r) = (v, i) :: refusedFrom t (i + 1) r := by
  rw [refusedFrom, List.zipIdx_cons, List.filter_cons_of_pos (by rw [h]; rfl)]
  rfl

lemma mem_of_mem_refusedFrom {t : Shared} {i : Nat} {vs : List Value} {u : Value × Nat}
    (h : u ∈ refusedFrom t i vs) : u.1 ∈ vs :=
  List.fst_mem_of_mem_zipIdx (List.mem_of_mem_filter h)

namespace Entry

/-- A mapping is salvaged as the entry as which it is read. -/
lemma ofValue_map {t : Shared} {v : Value} {entries : List (Scalar × Value)}
    (h : v.actual t = .map entries) : ofValue t v = (read t v).mapError .problems := by
  rw [ofValue, h]

/-- A document is salvaged as the entry as which it is read. -/
lemma ofValue_eq_ok_iff {t : Shared} {v : Value} {e : Entry} :
    ofValue t v = .ok e ↔ read t v = .ok e := by
  cases hactual : v.actual t with
  | map entries =>
      rw [ofValue_map hactual]
      cases read t v <;> simp [Except.mapError]
  | scalar | list | set | pair | shared => simp [ofValue, read, hactual, Checked.fail]

/-- The problems of a mapping that is no entry have a place in it. -/
lemma problems_place_ne_nil {t : Shared} {v : Value} {entries : List (Scalar × Value)}
    (h : v.actual t = .map entries) : ∀ p ∈ (read t v).problems, p.place ≠ [] := by
  simp only [read, h, Checked.problems_map, Checked.problems_both, List.forall_mem_append]
  exact ⟨optional_problems_place_ne_nil, optional_problems_place_ne_nil,
    optional_problems_place_ne_nil, optional_problems_place_ne_nil,
    optional_problems_place_ne_nil, optional_problems_place_ne_nil⟩

end Entry

/-! ### One by one -/

/-- What is reported about a mapping that is no entry: what it is called, and all that is wrong with
it. -/
def refusalReport (t : Shared) (u : Value × Nat) : String :=
  entryLabel t u.2 u.1 ++ ": " ++ problemsText (Entry.read t u.1).problems

section Salvage

variable {t : Shared} {i : Nat} {v : Value} {r : List Value}

lemma salvageFrom_cons_of_ok {e : Entry} (h : Entry.ofValue t v = .ok e) :
    (salvageFrom t i (v :: r)).value =
      ⟨e :: (salvageFrom t (i + 1) r).value.entries, (salvageFrom t (i + 1) r).value.errors⟩ := by
  rw [salvageFrom, h]
  rfl

lemma salvageFrom_cons_of_error {trouble : EntryTrouble} (h : Entry.ofValue t v = .error trouble) :
    (salvageFrom t i (v :: r)).value =
      ⟨(salvageFrom t (i + 1) r).value.entries,
        (entryLabel t i v ++ ": " ++ trouble.text) :: (salvageFrom t (i + 1) r).value.errors⟩ := by
  rw [salvageFrom, h]
  rfl

/-- Nothing is left out exactly when all documents are entries. -/
lemma salvageFrom_value_eq_iff {vs : List Value} {es : List Entry} :
    (salvageFrom t i vs).value = ⟨es, []⟩ ↔
      List.Forall₂ (fun v e => Entry.read t v = .ok e) vs es := by
  induction vs generalizing i es with
  | nil =>
      rw [List.forall₂_nil_left_iff]
      constructor
      · intro h
        exact (congrArg Salvaged.entries h).symm
      · rintro rfl
        rfl
  | cons v r ih =>
      rw [List.forall₂_cons_left_iff]
      cases hv : Entry.ofValue t v with
      | ok e =>
          rw [salvageFrom_cons_of_ok hv]
          constructor
          · intro h
            obtain ⟨rfl, herrors⟩ := Salvaged.mk.inj h
            have hr : (salvageFrom t (i + 1) r).value =
                ⟨(salvageFrom t (i + 1) r).value.entries, []⟩ := by rw [← herrors]
            exact ⟨e, _, Entry.ofValue_eq_ok_iff.mp hv, ih.mp hr, rfl⟩
          · rintro ⟨e', es', he', hes', rfl⟩
            obtain rfl := Except.ok.inj (hv.symm.trans (Entry.ofValue_eq_ok_iff.mpr he'))
            rw [ih.mpr hes']
      | error trouble =>
          -- an error was reported, and the document is no entry: both sides fail
          rw [salvageFrom_cons_of_error hv]
          constructor
          · intro h
            cases (Salvaged.mk.inj h).2
          · rintro ⟨e', -, he', -, -⟩
            cases hv.symm.trans (Entry.ofValue_eq_ok_iff.mpr he')

/-- Where all documents are mappings, there is one error for each that is no entry. -/
lemma salvageFrom_errors {vs : List Value} (h : ∀ v ∈ vs, ∃ entries, v.actual t = .map entries) :
    (salvageFrom t i vs).value.errors = (refusedFrom t i vs).map (refusalReport t) := by
  induction vs generalizing i with
  | nil => rfl
  | cons v r ih =>
      rw [List.forall_mem_cons] at h
      obtain ⟨⟨entries, hactual⟩, hr⟩ := h
      have hof := Entry.ofValue_map hactual
      cases hv : Entry.read t v with
      | ok e =>
          rw [hv] at hof
          rw [salvageFrom_cons_of_ok hof, refusedFrom_cons_of_ok hv, ih hr]
      | error ps =>
          rw [hv] at hof
          rw [salvageFrom_cons_of_error hof, refusedFrom_cons_of_error hv, List.map_cons,
            refusalReport, hv, ih hr]
          rfl

end Salvage

/-! ### At once -/

/-- A configuration as a document that lists the documents of its entries. -/
def configurationOf (vs : List Value) : Value := .object [("collections", .list vs)]

lemma readConfiguration_configurationOf (t : Shared) (vs : List Value) :
    readConfiguration t (configurationOf vs) =
      (members (Entry.read t) 0 vs).under (.key "collections") := rfl

/-- Only the documents that are no entries have problems. -/
lemma flatMap_problems_eq_refusedFrom (t : Shared) (i : Nat) (vs : List Value)
    (place : Nat → Problem → Problem) :
    ((vs.zipIdx i).flatMap fun u => (Entry.read t u.1).problems.map (place u.2)) =
      (refusedFrom t i vs).flatMap fun u => (Entry.read t u.1).problems.map (place u.2) := by
  induction vs generalizing i with
  | nil => rfl
  | cons v r ih =>
      rw [List.zipIdx_cons, List.flatMap_cons, ih]
      cases hv : Entry.read t v with
      | ok e =>
          rw [refusedFrom_cons_of_ok hv]
          rfl
      | error ps => rw [refusedFrom_cons_of_error hv, List.flatMap_cons, hv]

/-- The problems of a configuration are those of the documents that are no entries. -/
lemma readConfiguration_problems (t : Shared) (vs : List Value) :
    (readConfiguration t (configurationOf vs)).problems =
      (refused t vs).flatMap fun u => (Entry.read t u.1).problems.map (Problem.ofEntry u.2) := by
  rw [readConfiguration_configurationOf, Checked.problems_under, members_problems,
    List.map_flatMap, refused, ← flatMap_problems_eq_refusedFrom]
  simp only [List.map_map]
  rfl

/-! ### What entries are called -/

/-- What is read as text can be spelled. -/
lemma spellingFault?_eq_none_of_text {t : Shared} {v : Value} {s : String} (h : text v = .ok s) :
    v.spellingFault? t = none := by
  match v with
  | .scalar (.text _) | .scalar (.bytes _) => rfl

/-- What a document is called stands in it. -/
lemma get?_of_givenId? {t : Shared} {v id : Value} (h : givenId? t v = some id) :
    (v.actual t).get? "collectionId" = some id := by
  rw [givenId?] at h
  split at h
  · cases h
  · cases h
  · cases h
  · next hget =>
      rw [hget, h]

/-- What an entry is called can be spelled. -/
lemma labelFault?_eq_none_of_read {t : Shared} {v : Value} {e : Entry}
    (h : Entry.read t v = .ok e) : labelFault? t v = none := by
  obtain ⟨entries, hactual, hid, -⟩ := Entry.read_eq_ok_iff.mp h
  have hspelled : ∀ id, find? "collectionId" entries = some id → id.spellingFault? t = none := by
    intro id hfind
    have hlookup : lookup ["collectionId", "collection_id"] entries =
        some ("collectionId", id) := by
      rw [lookup, List.findSome?_cons, hfind]
      rfl
    rcases optional_eq_ok_iff.mp hid with ⟨_, _, hsome, hread⟩ | ⟨hnone, -⟩
    · cases hlookup.symm.trans hsome
      exact spellingFault?_eq_none_of_text hread
    · cases hlookup.symm.trans hnone
  rw [labelFault?, Option.bind_eq_none_iff]
  intro id hgiven
  have hfind := get?_of_givenId? hgiven
  rw [hactual] at hfind
  exact hspelled id hfind

/-- What a document that a JSON text can hold is called can be spelled. -/
lemma labelFault?_eq_none_of_isJson {v : Value} (h : v.IsJson) (t : Shared) :
    labelFault? t v = none := by
  rw [labelFault?, Option.bind_eq_none_iff]
  intro id hgiven
  have hget := get?_of_givenId? hgiven
  cases h with
  | map _ hvalues => exact (of_find? hvalues hget).spellingFault?_eq_none t
  | scalar | list => cases hget

/-- A list is read one by one, if all that its documents are called can be spelled. -/
lemma salvageLabelled_of_forall {t : Shared} {vs : List Value}
    (h : ∀ v ∈ vs, labelFault? t v = none) : salvageLabelled t vs = .ok (salvage t vs) := by
  rw [salvageLabelled, List.findSome?_eq_none_iff.mpr h]

/-- A list of entries is read one by one, since all that they are called can be spelled. -/
lemma salvageLabelled_of_forall₂ {t : Shared} {vs : List Value} {es : List Entry}
    (h : List.Forall₂ (fun v e => Entry.read t v = .ok e) vs es) :
    salvageLabelled t vs = .ok (salvage t vs) := by
  have hlabel : List.Forall₂ (fun v _ => labelFault? t v = none ∧ True) vs es :=
    h.imp fun _ _ he => ⟨labelFault?_eq_none_of_read he, trivial⟩
  exact salvageLabelled_of_forall ((List.forall₂_and_left vs es).mp hlabel).1

lemma eq_salvage_of_salvageLabelled {t : Shared} {vs : List Value} {s : Traced Salvaged}
    (h : salvageLabelled t vs = .ok s) : s = salvage t vs := by
  rw [salvageLabelled] at h
  split at h
  · cases h
  · exact (Except.ok.inj h).symm

/-! ### Both ways -/

/-- **Reading at once and reading one by one agree**: a list of documents is read at once exactly
when, read one by one, nothing is reported, and then as the same entries; all that JSON texts can
hold can be read one by one; and where a list of mappings is refused, its problems are, in order,
all that is reported about the documents that are no entries, each with the index of its document in
front of its place. -/
theorem readings_agree (t : Shared) (vs : List Value) :
    (∀ es, readConfiguration t (configurationOf vs) = .ok es ↔
      ∃ s, salvageLabelled t vs = .ok s ∧ s.value = ⟨es, []⟩) ∧
    ((∀ v ∈ vs, v.IsJson) → ∃ s, salvageLabelled t vs = .ok s) ∧
    ∀ ps s, readConfiguration t (configurationOf vs) = .error ps → salvageLabelled t vs = .ok s →
      (∀ v ∈ vs, ∃ entries, v.actual t = .map entries) →
      s.value.errors = (refused t vs).map (refusalReport t) ∧
        ps = ((refused t vs).flatMap fun u =>
          (Entry.read t u.1).problems.map (Problem.ofEntry u.2)) ∧
        ∀ u ∈ refused t vs, ∀ p ∈ (Entry.read t u.1).problems,
          (p.ofEntry u.2).text = "collections." ++ toString u.2 ++ "." ++ p.text := by
  refine ⟨?_, ?_, ?_⟩
  · intro es
    rw [readConfiguration_configurationOf, Checked.under_eq_ok_iff, members_eq_ok_iff]
    constructor
    · intro h
      exact ⟨_, salvageLabelled_of_forall₂ h, salvageFrom_value_eq_iff.mpr h⟩
    · rintro ⟨s, hs, hvalue⟩
      rw [eq_salvage_of_salvageLabelled hs] at hvalue
      exact salvageFrom_value_eq_iff.mp hvalue
  · intro hjson
    exact ⟨_, salvageLabelled_of_forall fun v hv => labelFault?_eq_none_of_isJson (hjson v hv) t⟩
  · intro ps s hps hs hmaps
    have hproblems := readConfiguration_problems t vs
    rw [hps] at hproblems
    rw [eq_salvage_of_salvageLabelled hs]
    refine ⟨salvageFrom_errors hmaps, hproblems, fun u hu p hp => ?_⟩
    obtain ⟨entries, hactual⟩ := hmaps u.1 (mem_of_mem_refusedFrom hu)
    exact Problem.text_ofEntry (Entry.problems_place_ne_nil hactual p hp)

/-! ### Good and bad entries side by side -/

namespace Sample

/-- Two bad entries around a good one: the first says the mode in a wrong word and names no field,
the last has a number for its path. -/
def mixedEntries : List Value :=
  [.object [("collectionId", .text "Posts"),
      ("references", .list [.object [("mode", .text "inline")]])],
    .object [("collectionId", .text "Pages"), ("pathPrefix", .text "/pages")],
    .object [("path_prefix", .int 1)]]

lemma isJson_mixedEntries : ∀ v ∈ mixedEntries, v.IsJson := by
  have hpow : ∀ n, n ≠ 0 → 1 < Nat.pow 10 n := fun n hn => Nat.one_lt_pow hn (by decide)
  have hone : (Value.int 1).IsJson := .scalar (.int (hpow _ (by decide)))
  have htext : ∀ s : String, (Value.text s).IsJson := fun s => .scalar (.text s)
  have hreference : (Value.object [("mode", .text "inline")]).IsJson :=
    .object (List.forall_mem_singleton.mpr (htext _))
  simp only [mixedEntries, List.forall_mem_cons]
  refine ⟨.object ?_, .object ?_, .object ?_, List.forall_mem_nil _⟩
  · simp only [List.forall_mem_cons]
    exact ⟨htext _, .list (List.forall_mem_singleton.mpr hreference), List.forall_mem_nil _⟩
  · simp only [List.forall_mem_cons]
    exact ⟨htext _, htext _, List.forall_mem_nil _⟩
  · exact List.forall_mem_singleton.mpr hone

/-- The good one alone. -/
def goodEntries : List Value :=
  [.object [("collectionId", .text "Pages"), ("pathPrefix", .text "/pages")]]

end Sample

theorem readings_agree_sample :
    (∃ s, salvageLabelled #[] Sample.goodEntries = .ok s ∧
        s.value = ⟨[⟨"Pages", "/pages", "", [], none, none⟩], []⟩) ∧
      (∀ v ∈ Sample.mixedEntries, v.IsJson) ∧
      ∃ ps s, readConfiguration #[] (configurationOf Sample.mixedEntries) = .error ps ∧
        salvageLabelled #[] Sample.mixedEntries = .ok s ∧
        s.value.errors = (refused #[] Sample.mixedEntries).map (refusalReport #[]) ∧
        (refused #[] Sample.mixedEntries).map Prod.snd = [0, 2] ∧
        ps.map Problem.text = ["collections.0.references.0.fieldName: Field required",
          "collections.0.references.0.mode: Input should be 'embed' or 'link'",
          "collections.2.path_prefix: Input should be a valid string"] := by
  obtain ⟨haccepted, -, -⟩ := readings_agree #[] Sample.goodEntries
  obtain ⟨-, hreads, hrefused⟩ := readings_agree #[] Sample.mixedEntries
  obtain ⟨s, hs⟩ := hreads Sample.isJson_mixedEntries
  have hmaps : ∀ v ∈ Sample.mixedEntries, ∃ entries, v.actual #[] = .map entries := by
    simp only [Sample.mixedEntries, List.forall_mem_cons]
    exact ⟨⟨_, rfl⟩, ⟨_, rfl⟩, ⟨_, rfl⟩, List.forall_mem_nil _⟩
  obtain ⟨herrors, -, -⟩ := hrefused _ s rfl hs hmaps
  exact ⟨(haccepted _).mp rfl, Sample.isJson_mixedEntries, _, s, rfl, hs, herrors, rfl, rfl⟩

end WidgetContracts
