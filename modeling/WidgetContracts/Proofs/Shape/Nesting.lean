/-
Shapes inside shapes.

* `CollectionShape.ind`: a property of all shapes, from the shapes embedded in them.
* `CollectionShape.Embeds`: a shape is embedded in a field of another.
* `CollectionShape.Within`: a shape stands somewhere inside another, or is that shape itself.
* `CollectionShape.forall_within_iff`: what holds at every depth holds at the top and inside.
-/
import Mathlib.Logic.Relation
import Mathlib.Tactic.Lemma
import WidgetContracts.Shape

namespace WidgetContracts

namespace CollectionShape

/-- The induction principle of nested shapes: a property holds of every shape once it is inherited
from the shapes embedded in its fields. -/
@[elab_as_elim]
theorem ind {P : CollectionShape → Prop}
    (h : ∀ s : CollectionShape, (∀ f ∈ s.fields, ∀ t, f.shape = some t → P t) → P s)
    (s : CollectionShape) : P s :=
  @CollectionShape.rec P
    (fun fs => ∀ f ∈ fs, ∀ t, f.shape = some t → P t)
    (fun f => ∀ t, f.shape = some t → P t)
    (fun o => ∀ t, o = some t → P t)
    (fun _ _ _ _ ih => h _ ih)
    (fun f hf => absurd hf (by simp))
    (fun _ _ ihf ihr f hf => by
      rcases List.mem_cons.mp hf with rfl | hf'
      · exact ihf
      · exact ihr f hf')
    (fun _ _ _ _ _ _ ih => ih)
    (fun _ ht => absurd ht (by simp))
    (fun _ ih t ht => Option.some.inj ht ▸ ih)
    s

/-- A shape is embedded in a field of another. -/
def Embeds (s t : CollectionShape) : Prop := ∃ f ∈ s.fields, f.shape = some t

/-- A shape stands inside another, at any depth, or is that shape itself. -/
def Within (t s : CollectionShape) : Prop := Relation.ReflTransGen Embeds s t

/-- What holds of every shape inside another holds of that shape and inside those embedded in its
fields. -/
lemma forall_within_iff {P : CollectionShape → Prop} {s : CollectionShape} :
    (∀ t : CollectionShape, t.Within s → P t) ↔
      P s ∧ ∀ f ∈ s.fields, ∀ t, f.shape = some t → ∀ u : CollectionShape, u.Within t → P u := by
  constructor
  · intro h
    exact ⟨h s .refl, fun f hf t ht u hu => h u (.head ⟨f, hf, ht⟩ hu)⟩
  · rintro ⟨hself, hinside⟩ t ht
    rcases Relation.ReflTransGen.cases_head ht with rfl | ⟨u, ⟨f, hf, hu⟩, htu⟩
    · exact hself
    · exact hinside f hf u hu t htu

end CollectionShape

end WidgetContracts
