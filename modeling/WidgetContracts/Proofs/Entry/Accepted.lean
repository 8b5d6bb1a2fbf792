/-
Which entries may be processed.

* `Entry.faultsAmong_eq_nil_iff`: an entry has no faults among others exactly when it has none by
  itself and shares neither its identifier nor its path.
* `acceptedEntries_value`: the accepted entries are those without faults, in order.
* `acceptedEntries_records`, `acceptedEntries_asked`: one warning is written for each entry that is
  left out, and nothing is asked for.
* `acceptedEntries_singleton`: an accepted entry is accepted when it stands alone.
* `components_isSome_of_accepted`: an accepted entry has components.
-/
import Mathlib.Tactic.Lemma
import WidgetContracts.Entry.Check

namespace WidgetContracts

lemma faultIf_eq_nil_iff {b : Bool} {fault : EntryFault} :
    faultIf b fault = [] ↔ b = false := by
  cases b with
  | false => simp [faultIf]
  | true => simp [faultIf]

namespace Entry

/-- An entry has no faults among others exactly when it has none by itself and shares neither its
identifier nor its path with another position. -/
lemma faultsAmong_eq_nil_iff {e : Entry} {es : List Entry} :
    e.faultsAmong es = [] ↔
      e.faults = [] ∧ (es.map (·.collectionId)).count e.collectionId ≤ 1 ∧
        (es.map (·.pathPrefix)).count e.pathPrefix ≤ 1 := by
  rw [faultsAmong, List.append_eq_nil_iff, List.append_eq_nil_iff, faultIf_eq_nil_iff,
    faultIf_eq_nil_iff, decide_eq_false_iff_not, decide_eq_false_iff_not, Nat.not_lt, Nat.not_lt,
    and_assoc]

/-- An entry without faults has components. -/
lemma components_isSome_of_faults {e : Entry} (h : e.faults = []) : e.components.isSome = true := by
  rw [faults, List.append_eq_nil_iff, List.append_eq_nil_iff, faultIf_eq_nil_iff] at h
  simpa using h.1.2

end Entry

/-! ### The accepted entries -/

lemma acceptedAmong_value (all es : List Entry) :
    (acceptedAmong all es).value = es.filter fun e => (e.faultsAmong all).isEmpty := by
  induction es with
  | nil => rfl
  | cons e r ih =>
      rw [acceptedAmong, List.filter_cons]
      by_cases h : (e.faultsAmong all).isEmpty = true
      · simp only [h, if_true, Traced.bind_value, Traced.pure_value, ih]
      · simp only [h, Bool.false_eq_true, if_false, Traced.bind_value, ih]

/-- The accepted entries are those without faults, in order. -/
theorem acceptedEntries_value (es : List Entry) :
    (acceptedEntries es).value = es.filter fun e => (e.faultsAmong es).isEmpty :=
  acceptedAmong_value es es

/-- The warning that an entry is left out among others, if it is. -/
def Entry.skippedAmong (es : List Entry) (e : Entry) : List Record :=
  if (e.faultsAmong es).isEmpty then [] else [e.skipped (e.faultsAmong es)]

lemma acceptedAmong_records (all es : List Entry) :
    (acceptedAmong all es).records = es.flatMap (Entry.skippedAmong all) := by
  induction es with
  | nil => rfl
  | cons e r ih =>
      rw [acceptedAmong, List.flatMap_cons, ← ih, Entry.skippedAmong]
      by_cases h : (e.faultsAmong all).isEmpty = true
      · simp only [h, if_true, Traced.bind_records, Traced.pure_records, List.append_nil,
          List.nil_append]
      · simp only [h, Bool.false_eq_true, if_false, Traced.bind_records]
        rfl

/-- There is one warning for each entry that is left out. -/
lemma acceptedEntries_records (es : List Entry) :
    (acceptedEntries es).records = es.flatMap (Entry.skippedAmong es) :=
  acceptedAmong_records es es

lemma acceptedAmong_asked (all es : List Entry) : (acceptedAmong all es).asked = [] := by
  induction es with
  | nil => rfl
  | cons e r ih =>
      rw [acceptedAmong]
      split
      · simp only [Traced.bind_asked, Traced.pure_asked, List.append_nil, ih]
      · simp only [Traced.bind_asked, ih]
        rfl

/-- Nothing is asked for to find the accepted entries. -/
lemma acceptedEntries_asked (es : List Entry) : (acceptedEntries es).asked = [] :=
  acceptedAmong_asked es es

lemma mem_acceptedEntries_iff {e : Entry} {es : List Entry} :
    e ∈ (acceptedEntries es).value ↔ e ∈ es ∧ e.faultsAmong es = [] := by
  rw [acceptedEntries_value, List.mem_filter, List.isEmpty_iff]

/-- An accepted entry has components. -/
lemma components_isSome_of_accepted {e : Entry} {es : List Entry}
    (h : e ∈ (acceptedEntries es).value) : e.components.isSome = true :=
  Entry.components_isSome_of_faults
    (Entry.faultsAmong_eq_nil_iff.mp (mem_acceptedEntries_iff.mp h).2).1

/-- An accepted entry is accepted when it stands alone. -/
lemma acceptedEntries_singleton {e : Entry} {es : List Entry}
    (h : e ∈ (acceptedEntries es).value) : (acceptedEntries [e]).value = [e] := by
  have hfaults : e.faults = [] :=
    (Entry.faultsAmong_eq_nil_iff.mp (mem_acceptedEntries_iff.mp h).2).1
  have halone : e.faultsAmong [e] = [] :=
    Entry.faultsAmong_eq_nil_iff.mpr ⟨hfaults, by simp, by simp⟩
  rw [acceptedEntries_value, List.filter_cons, halone]
  rfl

end WidgetContracts
