/-
The shapes of a tree and their fields, as lists that can be counted.

* `CollectionShape.nodes`: the shapes that stand inside a shape.
* `CollectionShape.fieldsWhere`: the fields with a property at all shapes of a tree, each with the
  shape that owns it.
* `CollectionShape.fieldsWhere_perm`: such fields are gathered field by field of the root.
-/
import Mathlib.Data.List.Perm.Basic
import WidgetContracts.Proofs.Shape.Nesting

namespace WidgetContracts

/-! ### The shapes of a tree -/

mutual

/-- The shapes of a tree, each in front of those embedded in it. -/
def CollectionShape.nodes : CollectionShape → List CollectionShape
  | ⟨collectionId, displayName, entry, fields⟩ =>
    ⟨collectionId, displayName, entry, fields⟩ :: nodesOfFields fields

/-- The shapes inside fields. -/
def nodesOfFields : List (FieldShape CollectionShape) → List CollectionShape
  | [] => []
  | f :: r => nodesOfField f ++ nodesOfFields r

/-- The shapes inside a field. -/
def nodesOfField : FieldShape CollectionShape → List CollectionShape
  | ⟨_, _, _, _, _, shape⟩ => nodesOfEmbedded shape

/-- The shapes of what may be embedded in a field. -/
def nodesOfEmbedded : Option CollectionShape → List CollectionShape
  | some s => s.nodes
  | none => []

end

lemma nodesOfField_eq (f : FieldShape CollectionShape) :
    nodesOfField f = f.shape.toList.flatMap CollectionShape.nodes := by
  obtain ⟨_, _, _, _, _, shape⟩ := f
  cases shape with
  | none => rfl
  | some s => exact (List.append_nil _).symm

lemma nodesOfFields_eq (fs : List (FieldShape CollectionShape)) :
    nodesOfFields fs = fs.flatMap fun f => f.shape.toList.flatMap CollectionShape.nodes := by
  induction fs with
  | nil => rfl
  | cons f r ih => rw [nodesOfFields, nodesOfField_eq, ih, List.flatMap_cons]

namespace CollectionShape

/-- The shapes of a tree, without the recursion over fields. -/
lemma nodes_eq (s : CollectionShape) :
    s.nodes = s :: s.fields.flatMap fun f => f.shape.toList.flatMap nodes := by
  obtain ⟨_, _, _, fields⟩ := s
  rw [nodes, nodesOfFields_eq]

/-! ### The fields of a tree -/

/-- The fields with a property at all shapes of a tree, each with the shape that owns it. -/
def fieldsWhere (p : CollectionShape → FieldShape CollectionShape → Bool) (s : CollectionShape) :
    List (CollectionShape × FieldShape CollectionShape) :=
  s.nodes.flatMap fun t => (t.fields.filter (p t)).map (Prod.mk t)

variable (p : CollectionShape → FieldShape CollectionShape → Bool) (s : CollectionShape)

/-- What a field of a shape adds to the fields of the tree: itself, and those of the shape embedded
in it. -/
def fieldsAt (f : FieldShape CollectionShape) :
    List (CollectionShape × FieldShape CollectionShape) :=
  (if p s f then [(s, f)] else []) ++ f.shape.toList.flatMap (fieldsWhere p)

lemma fieldsWhere_eq :
    s.fieldsWhere p = (s.fields.filter (p s)).map (Prod.mk s) ++
      s.fields.flatMap fun f => f.shape.toList.flatMap (fieldsWhere p) := by
  rw [fieldsWhere, nodes_eq, List.flatMap_cons, List.flatMap_assoc]
  simp only [List.flatMap_assoc]
  rfl

/-- The fields of a tree are gathered field by field of the root. -/
lemma fieldsWhere_perm : (s.fieldsWhere p).Perm (s.fields.flatMap (fieldsAt p s)) := by
  have hown : (s.fields.filter (p s)).map (Prod.mk s) =
      s.fields.flatMap fun f => if p s f then [(s, f)] else [] := by
    induction s.fields with
    | nil => rfl
    | cons f r ih =>
        rw [List.filter_cons, List.flatMap_cons, ← ih]
        split <;> rfl
  rw [fieldsWhere_eq, hown]
  exact List.flatMap_append_perm _ _ _

end CollectionShape

end WidgetContracts
