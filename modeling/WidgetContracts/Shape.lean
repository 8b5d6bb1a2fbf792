/-
Shapes of collections: a collection together with its entry in the configuration, its fields
classified and the collections that its references lead to embedded where that was asked for.

* `FieldShape`, `CollectionShape`: fields and collections, nested in one another.
* `CollectionShape.label`: the name shown for a collection.
* `cardFields`, `tableFields`, `referenceFields`, `embeddedReferences`, `contentFields`: the fields
  that the different widgets show.
-/
import WidgetContracts.Entry.Basic
import WidgetContracts.FieldType
import WidgetContracts.Text.Basic

namespace WidgetContracts

/-- A classified field; `embedded` says that the referenced collection is shown in place, with the
shape `shape` if it was found. -/
structure FieldShape (σ : Type) where
  key : String
  category : FieldCategory
  valueType : ValueType
  displayName : Option String
  embedded : Bool
  shape : Option σ

/-- A collection with its entry in the configuration and its classified fields. -/
structure CollectionShape where
  collectionId : String
  displayName : Option String
  entry : Entry
  fields : List (FieldShape CollectionShape)

namespace FieldShape

variable {σ : Type}

/-- Whether a field is shown on a card: no field of the system, reference or rich content. -/
def isCard (f : FieldShape σ) : Bool :=
  match f.category with
  | .system | .reference | .multiReference | .richContent => false
  | _ => true

/-- Whether a field is a column of a table. -/
def isTable (f : FieldShape σ) : Bool := f.category == .simple

/-- Whether a field points to another collection. -/
def isReference (f : FieldShape σ) : Bool := f.category.isReference

/-- Whether a field holds content: all but those of the system. -/
def isContent (f : FieldShape σ) : Bool := f.category != .system

end FieldShape

namespace CollectionShape

/-- The name shown for a collection: its display name if given, else its identifier. -/
def label (s : CollectionShape) : String := (given s.displayName).getD s.collectionId

/-- The fields shown on a card. -/
def cardFields (s : CollectionShape) : List (FieldShape CollectionShape) :=
  s.fields.filter (·.isCard)

/-- The columns of a table. -/
def tableFields (s : CollectionShape) : List (FieldShape CollectionShape) :=
  s.fields.filter (·.isTable)

/-- The fields that point to other collections. -/
def referenceFields (s : CollectionShape) : List (FieldShape CollectionShape) :=
  s.fields.filter (·.isReference)

/-- The references shown in place. -/
def embeddedReferences (s : CollectionShape) : List (FieldShape CollectionShape) :=
  s.referenceFields.filter (·.embedded)

/-- The fields that hold content. -/
def contentFields (s : CollectionShape) : List (FieldShape CollectionShape) :=
  s.fields.filter (·.isContent)

/-- Whether items are placed in a category. -/
def hasCategory (s : CollectionShape) : Bool := s.entry.category.isSome

end CollectionShape

end WidgetContracts
