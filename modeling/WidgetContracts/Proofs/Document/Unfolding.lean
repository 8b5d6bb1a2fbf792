/-
Documents that look alike.

The collections of a document stand in a table under numbers, so one document may be kept in many
ways: with more or fewer references, and with other numbers.

* `Value.placed`: a value with the collection in the place of its reference.
* `Value.unfold`: what a value looks like down to some depth, with all collections in their places.
* `LooksLike`: two values, each with its table, look alike down to every depth.
* `EntriesLookAlike`: entries of mappings, with the same keys, under which stands what looks alike.
* `LooksLike.eq_scalar`: what looks like a scalar is that scalar.
* `LooksLike.exists_map`: what looks like a mapping is one whose entries look alike.
* `LooksLike.exists_members`: what looks like a list or a set has members that look alike.
-/
import Mathlib.Data.List.Forall2
import Mathlib.Tactic.Lemma
import WidgetContracts.Reading

namespace WidgetContracts

open Reading

/-! ### What a value looks like -/

namespace Value

/-- Whether a value has parts. -/
def isCollection : Value → Bool
  | scalar _ | shared _ => false
  | list _ | map _ | set _ | pair _ _ => true

/-- A value with the collection in the place of its reference. -/
def placed (t : Shared) (v : Value) : Value := if (v.actual t).isCollection then v.actual t else v

/-- A value with other values for its parts. -/
def mapParts (f : Value → Value) : Value → Value
  | list items => list (items.map f)
  | map entries => map (entries.map fun p => (p.1, f p.2))
  | pair first second => pair (f first) (f second)
  | v => v

/-- What a value looks like down to some depth, with all collections in their places. -/
def unfold (t : Shared) : Nat → Value → Value
  | 0, _ => null
  | n + 1, v => (v.placed t).mapParts (unfold t n)

lemma placed_eq_iff {t : Shared} {v c : Value} (hc : c.isCollection = true) :
    v.placed t = c ↔ v.actual t = c := by
  by_cases h : (v.actual t).isCollection = true
  · rw [placed, if_pos h]
  · rw [placed, if_neg h]
    constructor
    · rintro rfl
      -- a collection is no reference and stands for itself
      cases v with
      | shared => cases hc
      | scalar | list | map | set | pair => rfl
    · rintro rfl
      exact absurd hc h

end Value

/-- Two values, each with its table, look alike down to every depth. -/
def LooksLike (t u : Shared) (v w : Value) : Prop := ∀ n, v.unfold t n = w.unfold u n

/-- Entries of mappings, with the same keys, under which stands what looks alike. -/
abbrev EntriesLookAlike (t u : Shared) : List (Scalar × Value) → List (Scalar × Value) → Prop :=
  List.Forall₂ fun p q => p.1 = q.1 ∧ LooksLike t u p.2 q.2

/-! ### What looks alike -/

namespace LooksLike

variable {t u : Shared} {v w : Value}

lemma refl (t : Shared) (v : Value) : LooksLike t t v v := fun _ => rfl

lemma symm (h : LooksLike t u v w) : LooksLike u t w v := fun n => (h n).symm

lemma mapParts_placed (h : LooksLike t u v w) (n : Nat) :
    (w.placed u).mapParts (.unfold u n) = (v.placed t).mapParts (.unfold t n) :=
  (h (n + 1)).symm

lemma scalar (t u : Shared) (s : Scalar) : LooksLike t u (.scalar s) (.scalar s) := by
  intro n
  cases n with
  | zero => rfl
  | succ n => rfl

/-- What looks like a scalar is that scalar. -/
lemma eq_scalar {s : Scalar} (h : LooksLike t u (.scalar s) w) : w = .scalar s := by
  have hplaced : w.placed u = .scalar s := by
    have hparts := h.mapParts_placed 0
    revert hparts
    cases w.placed u with
    | scalar => exact id
    | list | map | set | pair | shared => exact nofun
  rw [Value.placed] at hplaced
  split at hplaced
  · next hcollection =>
      rw [hplaced] at hcollection
      cases hcollection
  · exact hplaced

lemma isNull_eq (h : LooksLike t u v w) : v.isNull = w.isNull := by
  have hnull : ∀ {t u v w}, LooksLike t u v w → v.isNull = true → w.isNull = true := by
    intro t u v w h hv
    match v with
    | .scalar .null => rw [h.eq_scalar]; rfl
  rw [Bool.eq_iff_iff]
  exact ⟨hnull h, hnull h.symm⟩

/-- Lists that are alike under each of many maps are alike member by member. -/
lemma forall₂_of_map_eq {α β γ : Type} {f : Nat → α → γ} {g : Nat → β → γ} {as : List α}
    {bs : List β} (h : ∀ n, as.map (f n) = bs.map (g n)) :
    List.Forall₂ (fun a b => ∀ n, f n a = g n b) as bs := by
  induction as generalizing bs with
  | nil =>
      obtain rfl := List.map_eq_nil_iff.mp (h 0).symm
      exact .nil
  | cons a r ih =>
      cases bs with
      | nil => cases h 0
      | cons b s =>
          have hhead : ∀ n, f n a = g n b := fun n => (List.cons.inj (h n)).1
          exact .cons hhead (ih fun n => (List.cons.inj (h n)).2)

/-- What looks like a mapping is one whose entries look alike. -/
lemma exists_map {entries : List (Scalar × Value)} (h : LooksLike t u v w)
    (hv : v.actual t = .map entries) :
    ∃ entries', w.actual u = .map entries' ∧ EntriesLookAlike t u entries entries' := by
  have hparts := h.mapParts_placed
  rw [(Value.placed_eq_iff rfl).mpr hv] at hparts
  cases hw : w.placed u with
  | map entries' =>
      rw [hw] at hparts
      refine ⟨entries', (Value.placed_eq_iff rfl).mp hw, ?_⟩
      have hentries := forall₂_of_map_eq fun n => (Value.map.inj (hparts n)).symm
      exact hentries.imp fun p q hpq =>
        ⟨(Prod.mk.inj (hpq 0)).1, fun n => (Prod.mk.inj (hpq n)).2⟩
  | scalar | list | set | pair | shared =>
      rw [hw] at hparts
      cases hparts 0

/-- What looks like a list or a set has members that look alike. -/
lemma exists_members {vs : List Value} (h : LooksLike t u v w)
    (hv : members? (v.actual t) = some vs) :
    ∃ ws, members? (w.actual u) = some ws ∧ List.Forall₂ (LooksLike t u) vs ws := by
  have hparts := h.mapParts_placed
  cases hactual : v.actual t with
  | list items =>
      rw [hactual] at hv
      obtain rfl := Option.some.inj hv
      rw [(Value.placed_eq_iff rfl).mpr hactual] at hparts
      cases hw : w.placed u with
      | list items' =>
          rw [hw] at hparts
          refine ⟨items', by rw [(Value.placed_eq_iff rfl).mp hw]; rfl, ?_⟩
          exact forall₂_of_map_eq fun n => (Value.list.inj (hparts n)).symm
      | scalar | map | set | pair | shared =>
          rw [hw] at hparts
          cases hparts 0
  | set items =>
      rw [hactual] at hv
      obtain rfl := Option.some.inj hv
      rw [(Value.placed_eq_iff rfl).mpr hactual] at hparts
      cases hw : w.placed u with
      | set items' =>
          rw [hw] at hparts
          obtain rfl : items' = items := Value.set.inj (hparts 0)
          refine ⟨_, by rw [(Value.placed_eq_iff rfl).mp hw]; rfl, ?_⟩
          rw [List.forall₂_map_left_iff, List.forall₂_map_right_iff, List.forall₂_same]
          exact fun s _ => .scalar t u s
      | scalar | list | map | pair | shared =>
          rw [hw] at hparts
          cases hparts 0
  | scalar | map | pair | shared =>
      rw [hactual] at hv
      cases hv

end LooksLike

end WidgetContracts
