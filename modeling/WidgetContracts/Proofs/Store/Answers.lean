/-
What a source answers when it is asked, and what it means that it may take time.

* `Source.GivesTime`: no limit is set to a fetch, or a positive one.
* `Source.Answers`: the store answers an identifier with a collection.
* `Source.ask_found_iff`: with time, asking finds exactly what the store answers.
-/
import Mathlib.Tactic.Lemma
import WidgetContracts.Store

namespace WidgetContracts

open Float.Model (UnpackedFloat)

/-! ### Limits of time -/

/-- What lies above zero has zero below it. -/
lemma compare_zero_of_lt {sign : UnpackedFloat.Sign} {x : UnpackedFloat}
    (h : UnpackedFloat.compare (.zero sign) x = some .lt) :
    UnpackedFloat.compare x (.zero sign) = some .gt := by
  cases x with
  | notANumber => cases h
  | zero => cases h
  | infinity r =>
      cases r with
      | positive => rfl
      | negative => cases h
  | finite r =>
      cases r with
      | positive => rfl
      | negative => cases h

/-- A positive number is not at most zero. -/
lemma not_le_zero_of_pos {t : Float} (h : 0 < t) : ¬t ≤ 0 := by
  have hzero : (0 : Float).toModel.unpack = .zero .positive := rfl
  have hlt : UnpackedFloat.compare (0 : Float).toModel.unpack t.toModel.unpack = some .lt := by
    simpa [LT.lt, Float.lt, Float.Model.lt, UnpackedFloat.lt] using h
  intro hle
  have hany : (UnpackedFloat.compare t.toModel.unpack (0 : Float).toModel.unpack).any
      (·.isLE) = true := by
    simpa [LE.le, Float.le, Float.Model.le, UnpackedFloat.le] using of_decide_eq_true hle
  rw [hzero] at hlt hany
  rw [compare_zero_of_lt hlt] at hany
  cases hany

namespace Source

variable {s : Source}

/-- No limit is set to a fetch, or a positive one. -/
def GivesTime (s : Source) : Prop := ∀ t ∈ s.timeout, 0 < t

lemma GivesTime.hasNoTime_eq_false (h : s.GivesTime) : s.hasNoTime = false := by
  rw [hasNoTime]
  cases ht : s.timeout with
  | none => rfl
  | some t =>
      have hpos : ¬t ≤ 0 := not_le_zero_of_pos (h t ht)
      simpa using hpos

/-! ### Answers -/

/-- The store answers an identifier with a collection: it gives a document that reads as the
collection, or a reply from which the client takes it. -/
def Answers (s : Source) (id : String) (c : Collection) : Prop :=
  (s.store id).answer s.client id = .found c

lemma Answers.unique {id : String} {c d : Collection} (hc : s.Answers id c)
    (hd : s.Answers id d) : c = d :=
  Answer.found.inj (hc.symm.trans hd)

lemma ask_records (s : Source) (id : String) : (s.ask id).records = [] := by
  rw [ask]
  split <;> rfl

/-- The store is asked unless no time is given. -/
lemma ask_asked (s : Source) (id : String) :
    (s.ask id).asked = if s.hasNoTime then [] else [id] := by
  rw [ask]
  split <;> rfl

/-- What is found was asked for in time. -/
lemma hasNoTime_eq_false_of_ask {id : String} {c : Collection}
    (h : (s.ask id).value = .found c) : s.hasNoTime = false := by
  rw [ask] at h
  split at h
  · cases h
  · next htime => simpa using htime

/-- What is found was answered, whatever the time. -/
lemma answers_of_ask {id : String} {c : Collection} (h : (s.ask id).value = .found c) :
    s.Answers id c := by
  rw [ask] at h
  split at h
  · cases h
  · exact h

/-- With time, what is answered is found. -/
lemma ask_of_answers (htime : s.hasNoTime = false) {id : String} {c : Collection}
    (h : s.Answers id c) : (s.ask id).value = .found c := by
  rw [ask, htime]
  exact h

/-- With time, asking finds exactly what the store answers. -/
lemma ask_found_iff (hs : s.GivesTime) {id : String} {c : Collection} :
    (s.ask id).value = .found c ↔ s.Answers id c := by
  rw [ask, hs.hasNoTime_eq_false]
  exact Iff.rfl

end Source

end WidgetContracts
