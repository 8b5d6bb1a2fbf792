/-
Resolving a collection into its shape: its fields are classified, and the references for which
embedding is asked are replaced by the shapes of the collections they lead to.

A reference that leads back to a collection on the way is embedded only when its directive asks for
nothing further; a reference that cannot be resolved stays a link, and a warning says why.

* `Field.isEmbeddingOf`: whether a directive asks to embed the reference in a field.
* `nestedEntry`: the entry of an embedded collection, which carries only the nested directives.
* `Source.reference`: the collection that a reference leads to, if it can be had.
* `resolve`: the shape of a collection.
-/
import WidgetContracts.Shape
import WidgetContracts.Store

namespace WidgetContracts

/-- Whether a directive asks to embed the reference in a field. -/
def Field.isEmbeddingOf (f : Field) (d : Directive) : Bool :=
  (categoryOf f.key (some f.type)).isReference && d.mode == .embed

/-- A field with its classification; `embedded` and `shape` say how its reference is shown. -/
def Field.shape (f : Field) (embedded : Bool) (shape : Option CollectionShape) :
    FieldShape CollectionShape :=
  ⟨f.key, categoryOf f.key (some f.type), valueTypeOf (some f.type), f.displayName, embedded, shape⟩

/-- The entry of an embedded collection. -/
def nestedEntry (collectionId : String) (d : Directive) : Entry :=
  ⟨collectionId, "", "", d.nested, none, some Components.none⟩

/-- The collection that the reference in a field of `owner` leads to, with its identifier, if it can
be had; `path` holds the collections on the way. -/
def Source.reference (s : Source) (owner : String) (path : List String) (f : Field)
    (d : Directive) : Traced (Option (String × Collection)) :=
  let refuse (message : String) := Traced.logging (Record.warning owner message) none
  let target := f.target.getD ""
  if target = "" then
    refuse s!"Field '{f.key}' has no referenced collection, not embedding"
  else if path.contains target && !d.nested.isEmpty then
    refuse s!"Field '{f.key}' would embed {target} recursively, keeping it as a reference"
  else do
    match ← s.ask target with
    | .found c => return some (target, c)
    | .unknown => refuse s!"Referenced collection {target} not found for '{f.key}'"
    | .late => refuse s!"Timed out fetching referenced collection {target} for '{f.key}'"
    | .failed fault =>
      refuse s!"Failed to fetch referenced collection {target} for '{f.key}': {fault.message}"

/-- The shape of a collection under an entry; `path` holds the collections on the way to it. Without
a source, references stay unresolved. -/
def resolve (source : Option Source) (path : List String) (c : Collection) (e : Entry) :
    Traced CollectionShape := do
  let id := orElse c.id e.collectionId
  let path := id :: path
  let fields ← Traced.traverse (fun f =>
    match h : directiveFor? f.key e.references with
    | none => pure (f.shape false none)
    | some d =>
      if f.isEmbeddingOf d then
        match source with
        | none => pure (f.shape true none)
        | some s => do
          match ← s.reference id path f d with
          | none => return f.shape false none
          | some (target, referenced) =>
            have := nested_sizeOf_lt h
            let shape ← resolve source path referenced (nestedEntry (orElse referenced.id target) d)
            return f.shape true (some shape)
      else pure (f.shape false none)) c.fields
  return ⟨id, c.displayName, e, fields⟩
termination_by sizeOf e.references

end WidgetContracts
