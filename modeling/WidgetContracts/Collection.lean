/-
Collections as the store describes them.

* `Field`, `Collection`: the fields of a collection, with the collection that a reference leads to.
* `liftTarget`: the target of a reference may stand in the metadata of its type; it is taken from
  there when the field itself gives none.
* `Collection.read`: from a document, with all problems, unless metadata is no mapping, which is a
  fault of its own and hides all problems.
* `Collection.toValue`: to the document that lists all fields in camel case.
-/
import WidgetContracts.Reading

namespace WidgetContracts

open Reading

/-- A field of a collection. -/
structure Field where
  key : String
  displayName : Option String
  type : String
  required : Bool
  target : Option String
  deriving DecidableEq, Repr

/-- A collection as the store describes it. -/
structure Collection where
  id : String
  displayName : Option String
  fields : List Field
  deriving DecidableEq, Repr

/-- Why a document is no collection: it has problems, or metadata is of a kind that has no
entries. -/
inductive CollectionFault where
  | problems (ps : List Problem)
  | noEntries (kind : String)
  deriving DecidableEq, Repr

/-- The key of a reference's target. -/
def targetKey : String := "referencedCollectionId"

/-- The entries of a value that is given; a value that is not given counts as an empty mapping. -/
def entriesOf? : Option Value → Except CollectionFault (List (Scalar × Value))
  | none => .ok []
  | some v =>
    if v.isTruthy then
      match v with
      | .map entries => .ok entries
      | v => .error (.noEntries v.kind)
    else .ok []

/-- The target that a kind of reference names in the metadata of a type, if one is given there. -/
def targetIn (kind : String) (metadata : List (Scalar × Value)) :
    Except CollectionFault (Option Value) := do
  let reference ← entriesOf? (find? kind metadata)
  return (find? targetKey reference).filter (·.isTruthy)

/-- A field's entries with the target of its reference, taken from the metadata of its type where
the field itself gives none: first from the single reference, then from the multiple one. -/
def liftTarget (entries : List (Scalar × Value)) :
    Except CollectionFault (List (Scalar × Value)) := do
  if (find? targetKey entries).any (·.isTruthy) then return entries
  let metadata ← entriesOf? (find? "typeMetadata" entries)
  match ← targetIn "reference" metadata with
  | some target => return put (.text targetKey) target entries
  | none =>
    match ← targetIn "multiReference" metadata with
    | some target => return put (.text targetKey) target entries
    | none => return entries

namespace Field

/-- The name under which problems speak of fields. -/
def modelName : String := "FieldSchema"

/-- Reads a field whose target has been lifted. -/
def readLifted (entries : List (Scalar × Value)) : Checked Field :=
  ((Reading.required ["key"] text entries).both <|
    (optional ["displayName", "display_name"] none nullableText entries).both <|
    (optional ["type"] "TEXT" text entries).both <|
    (optional ["required"] false flag entries).both <|
    (optional [targetKey, "referenced_collection_id"] none nullableText entries)).map
    fun (k, d, t, r, c) => ⟨k, d, t, r, c⟩

/-- Reads a field: the outer result is a fault that hides all problems. -/
def read : Value → Except CollectionFault (Checked Field)
  | .map entries => return readLifted (← liftTarget entries)
  | _ => return .fail (.notModel modelName)

/-- A field as a document. -/
def toValue (f : Field) : Value :=
  .object [("key", .text f.key), ("displayName", (f.displayName.map Value.text).getD .null),
    ("type", .text f.type), ("required", .bool f.required),
    (targetKey, (f.target.map Value.text).getD .null)]

end Field

/-- Reads the members of a list of fields, the first of which stands at index `i`. -/
def readFieldsFrom (i : Nat) : List Value → Except CollectionFault (Checked (List Field))
  | [] => return .ok []
  | v :: r => do
    let field ← Field.read v
    let fields ← readFieldsFrom (i + 1) r
    return ((field.under (.index i)).both fields).map fun (f, fs) => f :: fs

/-- Reads a list of fields. -/
def readFields : Value → Except CollectionFault (Checked (List Field))
  | .list items => readFieldsFrom 0 items
  | _ => return .fail .notList

namespace Collection

/-- The name under which problems speak of collections. -/
def modelName : String := "RawCollectionSchema"

/-- The fields of a collection's entries. -/
def readFieldsOf (entries : List (Scalar × Value)) :
    Except CollectionFault (Checked (List Field)) :=
  match lookup ["fields"] entries with
  | some (name, v) => return (← readFields v).under (.key name)
  | none => return .ok []

/-- Reads a collection. -/
def read : Value → Except CollectionFault Collection
  | .map entries => do
    let fields ← readFieldsOf entries
    let all := ((required ["_id", "id"] text entries).both <|
      (optional ["displayName", "display_name"] none nullableText entries).both fields).map
      fun (i, d, fs) => (⟨i, d, fs⟩ : Collection)
    all.mapError CollectionFault.problems
  | _ => .error (.problems [⟨[], .notModel modelName⟩])

/-- A collection as the document that lists all its fields. -/
def toValue (c : Collection) : Value :=
  .object [("id", .text c.id), ("displayName", (c.displayName.map Value.text).getD .null),
    ("fields", .list (c.fields.map Field.toValue))]

end Collection

/-- The wording of a fault in a log. -/
def CollectionFault.headline : CollectionFault → String
  | problems ps =>
    s!"{ps.length} validation error" ++ (if ps.length = 1 then "" else "s") ++
      s!" for {Collection.modelName}"
  | noEntries kind => s!"'{kind}' object has no attribute 'get'"

end WidgetContracts
