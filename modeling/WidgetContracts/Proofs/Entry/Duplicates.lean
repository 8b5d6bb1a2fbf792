/-
What is reported about entries, and which of them may be processed.

* `IsRepeatedIn`: a list reports the texts that stand in another more than once.
* `isRepeatedIn_repeated`: the repeated texts are so reported, when the empty ones are left out.
* `idLine_mem_iff`, `pathLine_mem_iff`: which lines are reported about identifiers and paths.
* `mem_acceptedEntries_iff_lines`: an entry may be processed exactly when nothing is reported about
  it.
* `reported_iff_left_out`: reporting agrees with leaving out.
-/
import Mathlib.Logic.Basic
import WidgetContracts.Proofs.Entry.Accepted

namespace WidgetContracts

/-! ### Texts that stand in a list more than once -/

/-- A list reports the texts that stand in another more than once: these and no others but the empty
one, each once, in the order in which they stand there first. -/
structure IsRepeatedIn (texts reported : List String) : Prop where
  mem_iff : ∀ t, t ∈ reported ↔ t ≠ "" ∧ 1 < texts.count t
  nodup : reported.Nodup
  inOrder : reported.Pairwise fun t u => texts.idxOf t < texts.idxOf u

lemma idxOf_cons_of_ne {α : Type} [BEq α] [LawfulBEq α] {a b : α} {l : List α} (h : b ≠ a) :
    (a :: l).idxOf b = l.idxOf b + 1 := by
  rw [List.idxOf_cons, beq_false_of_ne h.symm, cond_false]

/-- Selected members, each once, keep the order in which they stand first. -/
lemma pairwise_idxOf_eraseDups {α : Type} [BEq α] [LawfulBEq α] (p : α → Bool) (l : List α) :
    (l.filter p).eraseDups.Pairwise fun a b => l.idxOf a < l.idxOf b := by
  induction l generalizing p with
  | nil => simp
  | cons a r ih =>
      -- the members other than the head keep their order, one place further on
      have hrest : ∀ q : α → Bool, (∀ b ∈ r.filter q, b ≠ a) →
          (r.filter q).eraseDups.Pairwise fun b c => (a :: r).idxOf b < (a :: r).idxOf c := by
        intro q hq
        refine (ih q).imp_of_mem fun {b c} hb hc hlt => ?_
        have hba : b ≠ a := hq b (List.mem_eraseDups.mp hb)
        have hca : c ≠ a := hq c (List.mem_eraseDups.mp hc)
        rw [idxOf_cons_of_ne hba, idxOf_cons_of_ne hca]
        omega
      by_cases ha : p a = true
      · have hne : ∀ b ∈ r.filter fun b => !b == a && p b, b ≠ a := by
          intro b hb
          have hb' := (List.mem_filter.mp hb).2
          rw [Bool.and_eq_true] at hb'
          simpa using hb'.1
        rw [List.filter_cons_of_pos ha, List.eraseDups_cons, List.filter_filter,
          List.pairwise_cons]
        refine ⟨fun b hb => ?_, hrest _ hne⟩
        have hba : b ≠ a := hne b (List.mem_eraseDups.mp hb)
        rw [List.idxOf_cons_self, idxOf_cons_of_ne hba]
        omega
      · rw [List.filter_cons_of_neg ha]
        refine hrest p fun b hb hba => ha ?_
        rw [← hba]
        exact (List.mem_filter.mp hb).2

/-- The repeated texts, when the empty ones are left out first. -/
lemma repeated_nonempty_eq (texts : List String) :
    repeated (texts.filter (· != "")) =
      (texts.filter fun t => decide (1 < texts.count t) && t != "").eraseDups := by
  rw [repeated, List.filter_filter]
  refine congrArg List.eraseDups (List.filter_congr fun t _ => ?_)
  cases ht : t != "" with
  | false => rw [Bool.and_false, Bool.and_false]
  | true => rw [List.count_filter (p := (· != "")) ht]

/-- The repeated texts are reported, when the empty ones are left out first. -/
lemma isRepeatedIn_repeated (texts : List String) :
    IsRepeatedIn texts (repeated (texts.filter (· != ""))) := by
  have hordered := pairwise_idxOf_eraseDups (fun t => decide (1 < texts.count t) && t != "") texts
  rw [repeated_nonempty_eq]
  refine ⟨fun t => ?_, ?_, hordered⟩
  · rw [List.mem_eraseDups, List.mem_filter, Bool.and_eq_true, decide_eq_true_iff, bne_iff_ne]
    constructor
    · rintro ⟨-, hcount, hne⟩
      exact ⟨hne, hcount⟩
    · rintro ⟨hne, hcount⟩
      exact ⟨List.count_pos_iff.mp (by omega), hcount, hne⟩
  · refine hordered.imp fun {t u} hlt heq => ?_
    rw [heq] at hlt
    exact absurd hlt (Nat.lt_irrefl _)

/-! ### The lines about duplicates -/

/-- The lines about identifiers, and then about paths, that several entries share. -/
def duplicateLines (es : List Entry) : List String := (duplicateFaults es).map EntryFault.text

/-- A line about an identifier is no line about a path. -/
lemma idLine_ne_pathLine (id path : String) :
    "Duplicate collectionId: " ++ id ≠ "Duplicate pathPrefix: " ++ path := by
  intro h
  have hlists := congrArg (fun s : String => s.toList[10]?) h
  simp at hlists

/-- Among lines that begin in one of two ways, those that begin in the one way. -/
lemma mem_lines_iff {head other : String} (hne : ∀ t u, head ++ t ≠ other ++ u)
    {ts us : List String} {t : String} :
    head ++ t ∈ ts.map (head ++ ·) ∨ head ++ t ∈ us.map (other ++ ·) ↔ t ∈ ts := by
  rw [List.mem_map, List.mem_map]
  constructor
  · rintro (⟨u, hu, heq⟩ | ⟨u, -, heq⟩)
    · have : u = t := (String.append_right_inj head).mp heq
      rwa [← this]
    · exact absurd heq.symm (hne t u)
  · intro h
    exact Or.inl ⟨t, h, rfl⟩

section

variable {es : List Entry}

lemma duplicateLines_eq (es : List Entry) :
    duplicateLines es =
      (repeated ((es.map (·.collectionId)).filter (· != ""))).map
        ("Duplicate collectionId: " ++ ·) ++
      (repeated ((es.map (·.pathPrefix)).filter (· != ""))).map
        ("Duplicate pathPrefix: " ++ ·) := by
  rw [duplicateLines, duplicateFaults, List.map_append, List.map_map, List.map_map]
  rfl

/-- The line about an identifier is reported when several entries share it, unless it is empty. -/
lemma idLine_mem_iff {id : String} :
    "Duplicate collectionId: " ++ id ∈ duplicateLines es ↔
      id ≠ "" ∧ 1 < (es.map (·.collectionId)).count id := by
  rw [duplicateLines_eq, List.mem_append, mem_lines_iff idLine_ne_pathLine,
    (isRepeatedIn_repeated _).mem_iff]

/-- The line about a path is reported when several entries share it, unless it is empty. -/
lemma pathLine_mem_iff {path : String} :
    "Duplicate pathPrefix: " ++ path ∈ duplicateLines es ↔
      path ≠ "" ∧ 1 < (es.map (·.pathPrefix)).count path := by
  rw [duplicateLines_eq, List.mem_append, or_comm,
    mem_lines_iff fun path id => (idLine_ne_pathLine id path).symm,
    (isRepeatedIn_repeated _).mem_iff]

/-- Every line is about an entry. -/
lemma exists_entry_of_mem_duplicateLines {line : String} (h : line ∈ duplicateLines es) :
    ∃ e ∈ es, line = "Duplicate collectionId: " ++ e.collectionId ∨
      line = "Duplicate pathPrefix: " ++ e.pathPrefix := by
  have hmem : ∀ (key : Entry → String) (t : String),
      t ∈ repeated ((es.map key).filter (· != "")) → ∃ e ∈ es, key e = t := by
    intro key t ht
    have hcount : 1 < (es.map key).count t := ((isRepeatedIn_repeated _).mem_iff t |>.mp ht).2
    exact List.mem_map.mp (List.count_pos_iff.mp (by omega))
  rw [duplicateLines_eq, List.mem_append, List.mem_map, List.mem_map] at h
  rcases h with ⟨id, hid, rfl⟩ | ⟨path, hpath, rfl⟩
  · obtain ⟨e, he, rfl⟩ := hmem _ id hid
    exact ⟨e, he, Or.inl rfl⟩
  · obtain ⟨e, he, rfl⟩ := hmem _ path hpath
    exact ⟨e, he, Or.inr rfl⟩

/-- There are no lines exactly when there is none about any entry. -/
lemma duplicateLines_eq_nil_iff :
    duplicateLines es = [] ↔ ∀ e ∈ es,
      "Duplicate collectionId: " ++ e.collectionId ∉ duplicateLines es ∧
        "Duplicate pathPrefix: " ++ e.pathPrefix ∉ duplicateLines es := by
  constructor
  · intro h e _
    rw [h]
    exact ⟨List.not_mem_nil, List.not_mem_nil⟩
  · intro h
    rw [List.eq_nil_iff_forall_not_mem]
    intro line hline
    obtain ⟨e, he, heq⟩ := exists_entry_of_mem_duplicateLines hline
    rcases heq with rfl | rfl
    · exact (h e he).1 hline
    · exact (h e he).2 hline

end

/-! ### Reporting and leaving out -/

/-- An entry without faults has an identifier and a path. -/
lemma Entry.ne_empty_of_faults {e : Entry} (h : e.faults = []) :
    e.collectionId ≠ "" ∧ e.pathPrefix ≠ "" := by
  rw [faults, List.append_eq_nil_iff, List.append_eq_nil_iff, List.append_eq_nil_iff,
    List.append_eq_nil_iff, faultIf_eq_nil_iff, beq_eq_false_iff_ne] at h
  obtain ⟨⟨⟨⟨hid, hpath⟩, -⟩, -⟩, -⟩ := h
  refine ⟨hid, fun hempty => ?_⟩
  rw [pathFaults, if_pos hempty] at hpath
  cases hpath

/-- An entry may be processed exactly when nothing is reported about it. An empty identifier or path
counts as shared only where entries are left out, but then it is a fault by itself. -/
lemma mem_acceptedEntries_iff_lines {e : Entry} {es : List Entry} (he : e ∈ es) :
    e ∈ (acceptedEntries es).value ↔ e.faults = [] ∧
      "Duplicate collectionId: " ++ e.collectionId ∉ duplicateLines es ∧
      "Duplicate pathPrefix: " ++ e.pathPrefix ∉ duplicateLines es := by
  rw [mem_acceptedEntries_iff, Entry.faultsAmong_eq_nil_iff, idLine_mem_iff, pathLine_mem_iff]
  constructor
  · rintro ⟨-, hfaults, hid, hpath⟩
    exact ⟨hfaults, fun h => Nat.not_lt.mpr hid h.2, fun h => Nat.not_lt.mpr hpath h.2⟩
  · rintro ⟨hfaults, hid, hpath⟩
    obtain ⟨hneId, hnePath⟩ := Entry.ne_empty_of_faults hfaults
    exact ⟨he, hfaults, Nat.not_lt.mp fun h => hid ⟨hneId, h⟩,
      Nat.not_lt.mp fun h => hpath ⟨hnePath, h⟩⟩

/-- All entries may be processed exactly when each of them may. -/
lemma acceptedEntries_eq_self_iff {es : List Entry} :
    (acceptedEntries es).value = es ↔ ∀ e ∈ es, e ∈ (acceptedEntries es).value := by
  constructor
  · intro h e he
    rwa [h]
  · intro h
    rw [acceptedEntries_value, List.filter_eq_self]
    intro e he
    rw [List.isEmpty_iff]
    exact (mem_acceptedEntries_iff.mp (h e he)).2

/-- There are no errors when there are entries, none of which has faults, and no duplicates. -/
lemma configurationErrors_eq_nil_iff {es : List Entry} :
    configurationErrors es = [] ↔
      es ≠ [] ∧ (∀ e ∈ es, e.faults = []) ∧ duplicateLines es = [] := by
  rw [configurationErrors]
  cases es with
  | nil => simp
  | cons e r =>
      rw [if_neg (by simp), List.append_eq_nil_iff, List.flatMap_eq_nil_iff]
      simp only [Entry.report, duplicateLines, List.map_eq_nil_iff, ne_eq, List.cons_ne_nil,
        not_false_eq_true, true_and]

/-- **Reporting agrees with leaving out**: a configuration has no errors exactly when it has entries
and all of them may be processed; an entry may not be processed exactly when it has faults by
itself, or there is a line about its identifier or its path; and the lines about duplicates report
the identifiers, and then the paths, that several entries share. -/
theorem reported_iff_left_out (es : List Entry) :
    (configurationErrors es = [] ↔ es ≠ [] ∧ (acceptedEntries es).value = es) ∧
      (∀ e ∈ es, e ∉ (acceptedEntries es).value ↔ e.faults ≠ [] ∨
        (e.collectionId ≠ "" ∧
          "Duplicate collectionId: " ++ e.collectionId ∈ duplicateLines es) ∨
        (e.pathPrefix ≠ "" ∧ "Duplicate pathPrefix: " ++ e.pathPrefix ∈ duplicateLines es)) ∧
      ∃ ids paths, duplicateLines es = ids.map ("Duplicate collectionId: " ++ ·) ++
          paths.map ("Duplicate pathPrefix: " ++ ·) ∧
        IsRepeatedIn (es.map (·.collectionId)) ids ∧
        IsRepeatedIn (es.map (·.pathPrefix)) paths := by
  refine ⟨?_, ?_, _, _, duplicateLines_eq es, isRepeatedIn_repeated _, isRepeatedIn_repeated _⟩
  · rw [configurationErrors_eq_nil_iff, acceptedEntries_eq_self_iff, duplicateLines_eq_nil_iff,
      ← forall₂_and]
    exact and_congr_right' (forall₂_congr fun e he => (mem_acceptedEntries_iff_lines he).symm)
  · intro e he
    rw [and_iff_right_of_imp fun h => (idLine_mem_iff.mp h).1,
      and_iff_right_of_imp fun h => (pathLine_mem_iff.mp h).1,
      mem_acceptedEntries_iff_lines he, not_and_or, not_and_or, not_not, not_not]

/-! ### Two shelves at one path -/

namespace Sample

/-- An entry with an identifier and a path. -/
def shelf (id path : String) : Entry := ⟨id, path, "slug", [], none, some Components.none⟩

/-- Two entries share a path, and two have no identifier. -/
def shelves : List Entry :=
  [shelf "Maps" "/maps", shelf "Books" "/books", shelf "" "/old", shelf "Tomes" "/books",
    shelf "" "/new"]

lemma path_mem_duplicateLines :
    "Duplicate pathPrefix: " ++ (shelf "Books" "/books").pathPrefix ∈ duplicateLines shelves := by
  decide

end Sample

theorem reported_iff_left_out_sample :
    Sample.shelf "Books" "/books" ∈ Sample.shelves ∧
      Sample.shelf "Books" "/books" ∉ (acceptedEntries Sample.shelves).value ∧
      configurationErrors Sample.shelves ≠ [] := by
  obtain ⟨hnone, hout, -⟩ := reported_iff_left_out Sample.shelves
  have hmem : Sample.shelf "Books" "/books" ∈ Sample.shelves := .tail _ (.head _)
  have hleft : Sample.shelf "Books" "/books" ∉ (acceptedEntries Sample.shelves).value :=
    (hout _ hmem).mpr (Or.inr (Or.inr ⟨by decide, Sample.path_mem_duplicateLines⟩))
  refine ⟨hmem, hleft, fun h => hleft ?_⟩
  rwa [(hnone.mp h).2]

end WidgetContracts
