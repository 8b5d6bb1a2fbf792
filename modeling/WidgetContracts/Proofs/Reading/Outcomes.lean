/-
What readers accept.

* `mapError_eq_ok_iff`, `bind_eq_ok_iff`: when steps that may fail succeed.
* `Checked.both_eq_ok_iff`, `Checked.map_eq_ok_iff`, `Checked.under_eq_ok_iff`: when joined results
  are there.
* `Checked.Unless`: a result that is there unless problems of one cause prevent it.
* `Checked.problems`: the problems that prevent a result; those of joined results follow one
  another.
* `Reading.optional_eq_ok_iff`: a field is read where it stands, or has the value for its absence.
* `Reading.members_eq_ok_iff`: the members of a list are read one by one.
* `Reading.members_problems`: the problems of a list are those of its members, in order.
* `Reading.optional_problems_place_ne_nil`: the problems of a field have a place.
* `Reading.forall_mem_of_listOrNull`: what holds of all that a reader accepts holds of the members
  of a list.
-/
import Mathlib.Data.List.Forall2
import Mathlib.Tactic.Lemma
import WidgetContracts.Reading

namespace WidgetContracts

/-! ### Steps -/

/-- A step succeeds whatever its faults are wrapped in. -/
lemma mapError_eq_ok_iff {ε ε' α : Type} {f : ε → ε'} {x : Except ε α} {a : α} :
    x.mapError f = .ok a ↔ x = .ok a := by
  cases x with
  | ok b =>
      change Except.ok b = .ok a ↔ _
      rw [Except.ok.injEq, Except.ok.injEq]
  | error fault => exact ⟨nofun, nofun⟩

/-- Two steps succeed when the second one does on what the first one gave. -/
lemma bind_eq_ok_iff {ε α β : Type} {x : Except ε α} {f : α → Except ε β} {b : β} :
    x >>= f = .ok b ↔ ∃ a, x = .ok a ∧ f a = .ok b := by
  cases x with
  | ok a => simp [bind, Except.bind]
  | error fault => simp [bind, Except.bind]

/-! ### Results -/

namespace Checked

variable {α β : Type}

lemma under_eq_ok_iff {s : Reading.Step} {a : Checked α} {x : α} :
    a.under s = .ok x ↔ a = .ok x := by
  cases a with
  | ok y => exact Iff.rfl
  | error ps => exact ⟨nofun, nofun⟩

/-- Two results are there together when each of them is. -/
lemma both_eq_ok_iff {a : Checked α} {b : Checked β} {x : α × β} :
    a.both b = .ok x ↔ a = .ok x.1 ∧ b = .ok x.2 := by
  cases a <;> cases b <;> simp [both, Prod.ext_iff]

lemma map_eq_ok_iff {a : Checked α} {f : α → β} {y : β} :
    a.map f = .ok y ↔ ∃ x, a = .ok x ∧ f x = y := by
  cases a <;> simp [Except.map]

/-- A result is the expected one, unless there are problems, all of one cause. -/
inductive Unless (cause : Reading.Cause) (x : α) : Checked α → Prop
  | ok : Unless cause x (.ok x)
  | error {ps : List Reading.Problem} (cause_eq : ∀ p ∈ ps, p.cause = cause) :
      Unless cause x (.error ps)

namespace Unless

variable {cause : Reading.Cause} {x : α} {y : β} {a : Checked α} {b : Checked β}

lemma under (h : a.Unless cause x) (s : Reading.Step) : (a.under s).Unless cause x := by
  cases h with
  | ok => exact .ok
  | error hps => exact .error (List.forall_mem_map.mpr hps)

/-- Two results whose problems have one cause are together such a result. -/
lemma both (ha : a.Unless cause x) (hb : b.Unless cause y) : (a.both b).Unless cause (x, y) := by
  cases ha with
  | ok =>
      cases hb with
      | ok => exact .ok
      | error hqs => exact .error hqs
  | error hps =>
      cases hb with
      | ok => exact .error hps
      | error hqs => exact .error (List.forall_mem_append.mpr ⟨hps, hqs⟩)

lemma map (h : a.Unless cause x) {f : α → β} (hf : f x = y) : Unless cause y (a.map f) := by
  subst hf
  cases h with
  | ok => exact .ok
  | error hps => exact .error hps

/-- Where the expected result is missing, there are problems of the cause. -/
lemma exists_of_ne (h : a.Unless cause x) (hne : a ≠ .ok x) :
    ∃ ps, a = .error ps ∧ ∀ p ∈ ps, p.cause = cause := by
  cases h with
  | ok => exact absurd rfl hne
  | error hps => exact ⟨_, rfl, hps⟩

end Unless

/-- The problems that prevent a result, if any. -/
def problems : Checked α → List Reading.Problem
  | .ok _ => []
  | .error ps => ps

@[simp]
lemma problems_under (a : Checked α) (s : Reading.Step) :
    (a.under s).problems = a.problems.map (·.under s) := by
  cases a <;> rfl

@[simp]
lemma problems_both (a : Checked α) (b : Checked β) :
    (a.both b).problems = a.problems ++ b.problems := by
  cases a <;> cases b <;> simp [both, problems]

@[simp]
lemma problems_map (a : Checked α) (f : α → β) : problems (a.map f) = a.problems := by
  cases a <;> rfl

end Checked

namespace Reading

variable {α : Type} {reader : Value → Checked α}

/-- A field that may be absent is read under the first of its names that is present. -/
lemma optional_eq_ok_iff {names : List String} {absent : α} {entries : List (Scalar × Value)}
    {a : α} : optional names absent reader entries = .ok a ↔
      (∃ name v, lookup names entries = some (name, v) ∧ reader v = .ok a) ∨
        (lookup names entries = none ∧ absent = a) := by
  rw [optional]
  cases h : lookup names entries with
  | none => simp
  | some p =>
      obtain ⟨name, v⟩ := p
      simp [Checked.under_eq_ok_iff]

/-- The members of a list are read one by one. -/
lemma members_eq_ok_iff {i : Nat} {vs : List Value} {as : List α} :
    members reader i vs = .ok as ↔ List.Forall₂ (fun v a => reader v = .ok a) vs as := by
  induction vs generalizing i as with
  | nil => simp [members, eq_comm]
  | cons v r ih =>
      rw [members, Checked.map_eq_ok_iff, List.forall₂_cons_left_iff]
      constructor
      · rintro ⟨⟨a, as'⟩, h, rfl⟩
        obtain ⟨ha, has⟩ := Checked.both_eq_ok_iff.mp h
        exact ⟨a, as', Checked.under_eq_ok_iff.mp ha, ih.mp has, rfl⟩
      · rintro ⟨a, as', ha, has, rfl⟩
        exact ⟨(a, as'), Checked.both_eq_ok_iff.mpr
          ⟨Checked.under_eq_ok_iff.mpr ha, ih.mpr has⟩, rfl⟩

/-- The problems of a list are those of its members, each seen from the list. -/
lemma members_problems (reader : Value → Checked α) (i : Nat) (vs : List Value) :
    (members reader i vs).problems = (vs.zipIdx i).flatMap fun u =>
      (reader u.1).problems.map (·.under (.index u.2)) := by
  induction vs generalizing i with
  | nil => rfl
  | cons v r ih =>
      rw [members, Checked.problems_map, Checked.problems_both, Checked.problems_under, ih,
        List.zipIdx_cons, List.flatMap_cons]

/-- The problems of a field stand under its name. -/
lemma optional_problems_place_ne_nil {names : List String} {absent : α}
    {entries : List (Scalar × Value)} :
    ∀ p ∈ (optional names absent reader entries).problems, p.place ≠ [] := by
  rw [optional]
  split
  · rw [Checked.problems_under, List.forall_mem_map]
    exact fun _ _ => List.cons_ne_nil _ _
  · exact List.forall_mem_nil _

/-- A list that was written member by member is read back exactly when each member is. -/
lemma members_map_eq_ok_iff {write : α → Value} {i : Nat} {as : List α} :
    members reader i (as.map write) = .ok as ↔ ∀ a ∈ as, reader (write a) = .ok a := by
  rw [members_eq_ok_iff, List.forall₂_map_left_iff, List.forall₂_same]

/-- A list that was written member by member is read back, unless a member has problems. -/
lemma unless_members {cause : Cause} {write : α → Value} {as : List α}
    (h : ∀ a ∈ as, (reader (write a)).Unless cause a) :
    ∀ i, (members reader i (as.map write)).Unless cause as := by
  induction as with
  | nil => exact fun _ => .ok
  | cons a r ih =>
      intro i
      rw [List.forall_mem_cons] at h
      rw [List.map_cons, members]
      exact ((h.1.under (.index i)).both (ih h.2 (i + 1))).map rfl

/-- What holds of all that a reader accepts holds of the members of a list that was read. -/
lemma forall_mem_of_listOrNull {P : α → Prop} (hP : ∀ u a, reader u = .ok a → P a) {t : Shared}
    {v : Value} {as : List α} (h : listOrNull t reader v = .ok as) : ∀ a ∈ as, P a := by
  rw [listOrNull] at h
  split at h
  · obtain rfl := Except.ok.inj h
    exact fun a ha => absurd ha List.not_mem_nil
  · rw [listOf] at h
    split at h
    · have hmembers := (members_eq_ok_iff.mp h).imp hP
      have hflip : List.Forall₂ (fun a _ => P a ∧ True) as _ :=
        hmembers.flip.imp fun _ _ ha => ⟨ha, trivial⟩
      exact ((List.forall₂_and_left as _).mp hflip).1
    · cases h

end Reading

end WidgetContracts
