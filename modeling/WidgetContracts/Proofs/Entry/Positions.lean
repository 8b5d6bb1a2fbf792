/-
Accepted entries, position by position.

* `StandsAlone`: no other position of a list holds the identifier or the path of the entry there.
* `one_lt_count_iff`: a text occurs more than once when another position has it.
* `keptPositions`, `droppedPositions`: the positions whose entries may be processed, and the others.
* `acceptedEntries_value_eq_map`, `acceptedEntries_records_eq_map`: the former give the accepted
  entries, and the latter one warning each.
* `faultsAmong_eq_nil_of_subperm`: an entry without faults among others has none among fewer.
* `accepted_regardless_of_order`: accepting is a filter that does not look at the order.
-/
import Mathlib.Data.List.NodupEquivFin
import Mathlib.Data.List.FinRange
import WidgetContracts.Proofs.Entry.Duplicates

namespace WidgetContracts

/-! ### Entries that stand alone -/

section

variable (es : List Entry)

/-- No other position holds the identifier or the path of the entry at a position. -/
def StandsAlone (i : Fin es.length) : Prop :=
  ∀ j, j ≠ i → (es.get j).collectionId ≠ (es.get i).collectionId ∧
    (es.get j).pathPrefix ≠ (es.get i).pathPrefix

/-- The entry at a position has no faults by itself and stands alone. -/
def MayProceed (i : Fin es.length) : Prop := (es.get i).faults = [] ∧ StandsAlone es i

instance : DecidablePred (StandsAlone es) := fun _ => Nat.decidableForallFin _

instance : DecidablePred (MayProceed es) := fun _ => instDecidableAnd

/-- The positions, in order, whose entries may be processed. -/
def keptPositions : List (Fin es.length) :=
  (List.finRange es.length).filter fun i => MayProceed es i

/-- The other positions, in order. -/
def droppedPositions : List (Fin es.length) :=
  (List.finRange es.length).filter fun i => ¬ MayProceed es i

end

/-- What a list holds at a position occurs more than once when another position has it, too. -/
lemma one_lt_count_iff {α : Type} (es : List α) (key : α → String) (i : Fin es.length) :
    1 < (es.map key).count (key (es.get i)) ↔ ∃ j, j ≠ i ∧ key (es.get j) = key (es.get i) := by
  have hlength : (es.map key).length = es.length := List.length_map key
  have hget : ∀ n : Fin (es.map key).length,
      (es.map key).get n = key (es.get (n.cast hlength)) := by
    intro n
    simp
  rw [Nat.lt_iff_add_one_le, ← List.duplicate_iff_two_le_count,
    List.duplicate_iff_exists_distinct_get]
  constructor
  · rintro ⟨n, m, hlt, hn, hm⟩
    rw [hget] at hn hm
    -- two positions have it, and at least one of them is another
    by_cases hi : n.cast hlength = i
    · refine ⟨m.cast hlength, fun hmi => ?_, hm.symm⟩
      have : n = m := Fin.cast_injective hlength (hi.trans hmi.symm)
      omega
    · exact ⟨n.cast hlength, hi, hn.symm⟩
  · rintro ⟨j, hne, hj⟩
    rcases Nat.lt_or_gt_of_ne (fun h => hne (Fin.ext h)) with hlt | hgt
    · refine ⟨j.cast hlength.symm, i.cast hlength.symm, hlt, ?_, ?_⟩
      · rw [hget]
        exact hj.symm
      · rw [hget]
        rfl
    · refine ⟨i.cast hlength.symm, j.cast hlength.symm, hgt, ?_, ?_⟩
      · rw [hget]
        rfl
      · rw [hget]
        exact hj.symm

section

variable {es : List Entry}

/-- An entry stands alone when neither its identifier nor its path occurs more than once. -/
lemma standsAlone_iff {i : Fin es.length} :
    StandsAlone es i ↔ (es.map (·.collectionId)).count (es.get i).collectionId ≤ 1 ∧
      (es.map (·.pathPrefix)).count (es.get i).pathPrefix ≤ 1 := by
  rw [← Nat.not_lt, ← Nat.not_lt, one_lt_count_iff es (·.collectionId),
    one_lt_count_iff es (·.pathPrefix), not_exists, not_exists, ← forall_and]
  exact forall_congr' fun j => by rw [not_and, not_and, ← imp_and]

/-- The entries that may be processed are those without faults among the others. -/
lemma mayProceed_iff {i : Fin es.length} :
    MayProceed es i ↔ (es.get i).faultsAmong es = [] := by
  rw [MayProceed, standsAlone_iff, Entry.faultsAmong_eq_nil_iff]

/-! ### Kept and dropped positions -/

/-- The accepted entries are those at the kept positions. -/
lemma acceptedEntries_value_eq_map (es : List Entry) :
    (acceptedEntries es).value = (keptPositions es).map es.get := by
  calc (acceptedEntries es).value
      = es.filter fun e => (e.faultsAmong es).isEmpty := acceptedEntries_value es
    _ = ((List.finRange es.length).map es.get).filter fun e => (e.faultsAmong es).isEmpty := by
        rw [List.map_get_finRange]
    _ = ((List.finRange es.length).filter fun i => ((es.get i).faultsAmong es).isEmpty).map
          es.get := List.filter_map
    _ = (keptPositions es).map es.get := by
        refine congrArg (List.map es.get) (List.filter_congr fun i _ => ?_)
        rw [Bool.eq_iff_iff, List.isEmpty_iff, decide_eq_true_iff, mayProceed_iff]

/-- There is one warning for each dropped position. -/
lemma acceptedEntries_records_eq_map (es : List Entry) :
    (acceptedEntries es).records =
      (droppedPositions es).map fun i => (es.get i).skipped ((es.get i).faultsAmong es) := by
  have hposition : ∀ is : List (Fin es.length),
      (is.flatMap fun i => Entry.skippedAmong es (es.get i)) =
        (is.filter fun i => ¬ MayProceed es i).map
          fun i => (es.get i).skipped ((es.get i).faultsAmong es) := by
    intro is
    induction is with
    | nil => rfl
    | cons i r ih =>
        rw [List.flatMap_cons, ih, Entry.skippedAmong, List.filter_cons]
        by_cases h : MayProceed es i
        · rw [if_pos (List.isEmpty_iff.mpr (mayProceed_iff.mp h)), if_neg (by simpa using h)]
          rfl
        · have hfaults := mt (mayProceed_iff.mpr ∘ List.isEmpty_iff.mp) h
          rw [if_neg hfaults, if_pos (by simpa using h)]
          rfl
  calc (acceptedEntries es).records
      = es.flatMap (Entry.skippedAmong es) := acceptedEntries_records es
    _ = ((List.finRange es.length).map es.get).flatMap (Entry.skippedAmong es) := by
        rw [List.map_get_finRange]
    _ = (List.finRange es.length).flatMap fun i => Entry.skippedAmong es (es.get i) :=
        List.flatMap_map _ _ _
    _ = _ := hposition _

/-! ### Other lists of entries -/

/-- An entry without faults among others has none among fewer. -/
lemma Entry.faultsAmong_eq_nil_of_subperm {es' : List Entry} (h : es.Subperm es') {e : Entry}
    (hnone : e.faultsAmong es' = []) : e.faultsAmong es = [] := by
  obtain ⟨l, hperm, hsublist⟩ := h
  have hcount : ∀ (key : Entry → String) (t : String),
      (es.map key).count t ≤ (es'.map key).count t := by
    intro key t
    rw [← (hperm.map key).count_eq]
    exact (hsublist.map key).count_le t
  rw [faultsAmong_eq_nil_iff] at hnone ⊢
  obtain ⟨hfaults, hid, hpath⟩ := hnone
  exact ⟨hfaults, (hcount _ _).trans hid, (hcount _ _).trans hpath⟩

/-- Accepted entries stay accepted when others are taken away. -/
lemma mem_acceptedEntries_of_subperm {es' : List Entry} (h : es.Subperm es') {e : Entry}
    (he : e ∈ es) (hmem : e ∈ (acceptedEntries es').value) : e ∈ (acceptedEntries es).value :=
  mem_acceptedEntries_iff.mpr
    ⟨he, Entry.faultsAmong_eq_nil_of_subperm h (mem_acceptedEntries_iff.mp hmem).2⟩

/-- The order of the entries does not matter. -/
lemma acceptedEntries_perm {es' : List Entry} (h : es'.Perm es) :
    (acceptedEntries es').value.Perm (acceptedEntries es).value := by
  rw [acceptedEntries_value, acceptedEntries_value]
  have hsame : ∀ e : Entry, (e.faultsAmong es').isEmpty = (e.faultsAmong es).isEmpty := by
    intro e
    rw [Bool.eq_iff_iff, List.isEmpty_iff, List.isEmpty_iff]
    exact ⟨Entry.faultsAmong_eq_nil_of_subperm h.symm.subperm,
      Entry.faultsAmong_eq_nil_of_subperm h.subperm⟩
  simp only [hsame]
  exact h.filter _

lemma acceptedEntries_sublist (es : List Entry) : (acceptedEntries es).value.Sublist es := by
  rw [acceptedEntries_value]
  exact List.filter_sublist

/-- Accepted entries have no identifier and no path in common. -/
lemma nodup_acceptedEntries (es : List Entry) :
    ((acceptedEntries es).value.map (·.collectionId)).Nodup ∧
      ((acceptedEntries es).value.map (·.pathPrefix)).Nodup := by
  have hnodup : ∀ key : Entry → String,
      (∀ e ∈ (acceptedEntries es).value, (es.map key).count (key e) ≤ 1) →
        ((acceptedEntries es).value.map key).Nodup := by
    intro key hkey
    rw [List.nodup_iff_count_le_one]
    intro t
    by_cases ht : t ∈ (acceptedEntries es).value.map key
    · obtain ⟨e, he, rfl⟩ := List.mem_map.mp ht
      exact (((acceptedEntries_sublist es).map key).count_le _).trans (hkey e he)
    · rw [List.count_eq_zero_of_not_mem ht]
      exact Nat.zero_le 1
  have hfaults : ∀ e ∈ (acceptedEntries es).value, e.faultsAmong es = [] :=
    fun e he => (mem_acceptedEntries_iff.mp he).2
  exact ⟨hnodup _ fun e he => (Entry.faultsAmong_eq_nil_iff.mp (hfaults e he)).2.1,
    hnodup _ fun e he => (Entry.faultsAmong_eq_nil_iff.mp (hfaults e he)).2.2⟩

/-- All accepted entries are accepted among themselves, and nothing is logged. -/
lemma acceptedEntries_acceptedEntries (es : List Entry) :
    acceptedEntries (acceptedEntries es).value = pure (acceptedEntries es).value := by
  have hnone : ∀ e ∈ (acceptedEntries es).value, e.faultsAmong (acceptedEntries es).value = [] :=
    fun e he => Entry.faultsAmong_eq_nil_of_subperm (acceptedEntries_sublist es).subperm
      (mem_acceptedEntries_iff.mp he).2
  have hvalue : (acceptedEntries (acceptedEntries es).value).value = (acceptedEntries es).value := by
    rw [acceptedEntries_value (acceptedEntries es).value, List.filter_eq_self]
    exact fun e he => List.isEmpty_iff.mpr (hnone e he)
  have hrecords : (acceptedEntries (acceptedEntries es).value).records = [] := by
    rw [acceptedEntries_records, List.flatMap_eq_nil_iff]
    intro e he
    rw [Entry.skippedAmong, if_pos (List.isEmpty_iff.mpr (hnone e he))]
  have hasked := acceptedEntries_asked (acceptedEntries es).value
  calc acceptedEntries (acceptedEntries es).value
      = Traced.mk (acceptedEntries (acceptedEntries es).value).value
          (acceptedEntries (acceptedEntries es).value).records
          (acceptedEntries (acceptedEntries es).value).asked := rfl
    _ = pure (acceptedEntries es).value := by
        rw [hvalue, hrecords, hasked]
        rfl

end

/-- **Accepting is a filter that does not look at the order**: the accepted entries are, in order,
those that have no faults by themselves and stand alone; one warning is written for each of the
others; no two accepted entries share an identifier or a path; to accept them again changes nothing;
the same entries of a rearranged list are accepted; and no entry is accepted once others are added
that was not accepted before. -/
theorem accepted_regardless_of_order (es : List Entry) :
    (acceptedEntries es).value = (keptPositions es).map es.get ∧
      ((acceptedEntries es).records = (droppedPositions es).map
          fun i => (es.get i).skipped ((es.get i).faultsAmong es)) ∧
      (∀ r ∈ (acceptedEntries es).records, r.level = .warning) ∧
      ((acceptedEntries es).value.map (·.collectionId)).Nodup ∧
      ((acceptedEntries es).value.map (·.pathPrefix)).Nodup ∧
      acceptedEntries (acceptedEntries es).value = pure (acceptedEntries es).value ∧
      (∀ es', es'.Perm es → (acceptedEntries es').value.Perm (acceptedEntries es).value) ∧
      ∀ es', es.Subperm es' → ∀ e ∈ es, e ∉ (acceptedEntries es).value →
        e ∉ (acceptedEntries es').value := by
  have hrecords := acceptedEntries_records_eq_map es
  obtain ⟨hids, hpaths⟩ := nodup_acceptedEntries es
  refine ⟨acceptedEntries_value_eq_map es, hrecords, ?_, hids, hpaths,
    acceptedEntries_acceptedEntries es, fun es' => acceptedEntries_perm, ?_⟩
  · rw [hrecords, List.forall_mem_map]
    exact fun i _ => rfl
  · intro es' hes' e he hnot hmem
    exact hnot (mem_acceptedEntries_of_subperm hes' he hmem)

namespace Sample

/-- The shelves, rearranged, after one more that has the identifier of the first. -/
def moreShelves : List Entry := shelf "Maps" "/atlases" :: shelves.reverse

end Sample

/-- Of the shelves only the first stands alone, and no longer so after another one has come. -/
theorem accepted_regardless_of_order_sample :
    (acceptedEntries Sample.shelves).value = [Sample.shelf "Maps" "/maps"] ∧
      (acceptedEntries Sample.shelves).records.length = 4 ∧
      Sample.shelves.reverse.Perm Sample.shelves ∧
      (acceptedEntries Sample.shelves.reverse).value.Perm [Sample.shelf "Maps" "/maps"] ∧
      Sample.shelves.Subperm Sample.moreShelves ∧
      (acceptedEntries Sample.moreShelves).value = [] ∧
      Sample.shelf "Books" "/books" ∉ (acceptedEntries Sample.moreShelves).value := by
  obtain ⟨hvalue, hrecords, -, -, -, -, hperm, hmore⟩ :=
    accepted_regardless_of_order Sample.shelves
  have hkept : (acceptedEntries Sample.shelves).value = [Sample.shelf "Maps" "/maps"] := by
    rw [hvalue]
    rfl
  have hreverse : Sample.shelves.reverse.Perm Sample.shelves := Sample.shelves.reverse_perm
  have hsubperm : Sample.shelves.Subperm Sample.moreShelves :=
    hreverse.symm.subperm.trans (List.sublist_cons_self _ _).subperm
  have hbooks : Sample.shelf "Books" "/books" ∉ (acceptedEntries Sample.shelves).value := by
    intro h
    rw [hkept, List.mem_singleton, Sample.shelf, Sample.shelf, Entry.mk.injEq] at h
    exact absurd h.1 (by decide)
  refine ⟨hkept, ?_, hreverse, hkept ▸ hperm _ hreverse, hsubperm, rfl,
    hmore _ hsubperm _ (.tail _ (.head _)) hbooks⟩
  rw [hrecords, List.length_map]
  rfl

end WidgetContracts
