/-
Traced results that agree up to their records, or up to the order of their traces.

* `Traced.bind_assoc`: a sequence of steps does not depend on how it is grouped.
* `Traced.Agrees`: two traced results have the same value and have asked for the same collections.
* `Traced.Agrees.bind`, `Traced.Agrees.traverse`: steps that agree one by one agree in sequence.
* `Traced.Reorders`: two traced results have the same value and the same traces in some order.
* `Traced.Reorders.bind`, `Traced.Reorders.swap`: steps may be reordered one by one, and change
  places where neither needs the other.
-/
import Mathlib.Data.List.Basic
import WidgetContracts.Log.Record

namespace WidgetContracts.Traced

variable {α β : Type}

/-- A sequence of steps does not depend on how it is grouped. -/
protected lemma bind_assoc {γ : Type} (t : Traced α) (f : α → Traced β) (g : β → Traced γ) :
    t >>= f >>= g = t >>= fun a => f a >>= g := by
  change Traced.mk _ (_ ++ _ ++ _) (_ ++ _ ++ _) = _
  rw [List.append_assoc, List.append_assoc]
  rfl

protected lemma pure_bind (a : α) (f : α → Traced β) : pure a >>= f = f a := rfl

/-- Two traced results agree: they have the same value and have asked for the same collections, in
the same order. Their records may differ. -/
structure Agrees (t u : Traced α) : Prop where
  value : t.value = u.value
  asked : t.asked = u.asked

namespace Agrees

variable {t u v : Traced α}

lemma refl (t : Traced α) : t.Agrees t := ⟨rfl, rfl⟩

lemma symm (h : t.Agrees u) : u.Agrees t := ⟨h.value.symm, h.asked.symm⟩

lemma trans (h : t.Agrees u) (h' : u.Agrees v) : t.Agrees v :=
  ⟨h.value.trans h'.value, h.asked.trans h'.asked⟩

/-- Steps that agree on every value keep agreement. -/
lemma bind {f g : α → Traced β} (h : t.Agrees u) (hstep : ∀ a, (f a).Agrees (g a)) :
    (t >>= f).Agrees (u >>= g) := by
  refine ⟨?_, ?_⟩
  · rw [bind_value, bind_value, h.value]
    exact (hstep u.value).value
  · rw [bind_asked, bind_asked, h.value, h.asked, (hstep u.value).asked]

/-- Steps that agree for each member of a list agree for the whole list. -/
lemma traverse {f g : α → Traced β} {as : List α} (h : ∀ a ∈ as, (f a).Agrees (g a)) :
    (Traced.traverse f as).Agrees (Traced.traverse g as) := by
  refine ⟨?_, ?_⟩
  · rw [traverse_value, traverse_value]
    exact List.map_congr_left fun a ha => (h a ha).value
  · rw [traverse_asked, traverse_asked]
    exact List.flatMap_congr fun a ha => (h a ha).asked

end Agrees

/-- Two traced results are the same up to the order of their records and of what was asked for. -/
structure Reorders (t u : Traced α) : Prop where
  value : t.value = u.value
  records : t.records.Perm u.records
  asked : t.asked.Perm u.asked

namespace Reorders

variable {t u v : Traced α}

lemma refl (t : Traced α) : t.Reorders t := ⟨rfl, .refl _, .refl _⟩

lemma trans (h : t.Reorders u) (h' : u.Reorders v) : t.Reorders v :=
  ⟨h.value.trans h'.value, h.records.trans h'.records, h.asked.trans h'.asked⟩

/-- Steps may be reordered one by one. -/
lemma bind {f g : α → Traced β} (h : t.Reorders u) (hstep : ∀ a, (f a).Reorders (g a)) :
    (t >>= f).Reorders (u >>= g) := by
  refine ⟨?_, ?_, ?_⟩
  · rw [bind_value, bind_value, h.value]
    exact (hstep u.value).value
  · rw [bind_records, bind_records, h.value]
    exact h.records.append (hstep u.value).records
  · rw [bind_asked, bind_asked, h.value]
    exact h.asked.append (hstep u.value).asked

/-- Two steps of which neither needs the other may change places. -/
lemma swap {γ : Type} (t : Traced α) (u : Traced β) (f : α → β → Traced γ) :
    (do let a ← t; let b ← u; f a b).Reorders (do let b ← u; let a ← t; f a b) := by
  refine ⟨rfl, ?_, ?_⟩
  · simp only [bind_records, ← List.append_assoc]
    exact List.perm_append_comm.append_right _
  · simp only [bind_asked, ← List.append_assoc]
    exact List.perm_append_comm.append_right _

end Reorders

end WidgetContracts.Traced
