/-
Entries of the configuration as documents. Every field is read under its camel-case name or its
snake-case name; the former counts when both are present.

* `Directive.read`, `Entry.read`: from a document, with all problems in the order of the fields.
  Directives that stand inside themselves, or too deep, are refused.
* `readEntries`: a list of entries, for which one bad entry refuses the list.
* `readConfiguration`: a whole configuration, the list of whose entries may be absent.
* `Directive.toValue`, `Entry.toValue`: to the document that lists all fields in camel case.
-/
import WidgetContracts.Entry.Basic
import WidgetContracts.Reading

namespace WidgetContracts

open Reading

/-- The word for a mode. -/
def Mode.word : Mode → String
  | embed => "embed"
  | link => "link"

/-- A mode by its word. -/
def Mode.read : Value → Checked Mode
  | .scalar (.text "embed") => .ok .embed
  | .scalar (.text "link") => .ok .link
  | _ => .fail (.notOneOf ["embed", "link"])

namespace Directive

/-- The name under which problems speak of directives. -/
def modelName : String := "ReferenceDirective"

/-- The names under which nested directives stand, the first present one counting. -/
def nestedNames : List String := ["nested", "references"]

/-- How deep directives may stand inside each other. -/
def maxDepth : Nat := 254

/-- Reads a directive inside those with the numbers `around`, inside which directives may still
stand `left` deep. No directive stands inside itself. -/
def readIn (t : Shared) : (left : Nat) → (around : List Nat) → Value → Checked Directive
  | 0, around, v => .fail (if v.numbers.any around.contains then .cyclic else .tooDeep)
  | left + 1, around, v =>
    if v.numbers.any around.contains then .fail .cyclic
    else
      match v.actual t with
      | .map entries =>
        let inner := readIn t left (v.numbers ++ around)
        ((required ["fieldName", "field_name"] text entries).both <|
          (optional ["mode"] .link Mode.read entries).both <|
          (optional nestedNames [] (listOrNull t inner) entries)).map fun (f, m, n) => ⟨f, m, n⟩
      | _ => .fail (.notModel modelName)

/-- Reads a directive. -/
def read (t : Shared) (v : Value) : Checked Directive := readIn t maxDepth [] v

mutual

/-- A directive as a document. -/
def toValue : Directive → Value
  | ⟨fieldName, mode, nested⟩ =>
    .object [("fieldName", .text fieldName), ("mode", .text mode.word),
      ("nested", .list (toValues nested))]

/-- Directives as documents. -/
def toValues : List Directive → List Value
  | [] => []
  | d :: r => d.toValue :: toValues r

end

end Directive

namespace CategoryKeys

/-- Reads the fields that place an item in a category. -/
def read (t : Shared) (v : Value) : Checked CategoryKeys :=
  match v.actual t with
  | .map entries =>
    ((optional ["referenceField", "reference_field"] "" text entries).both
      (optional ["categorySlugField", "category_slug_field"] "" text entries)).map
      fun (r, s) => ⟨r, s⟩
  | _ => .fail (.notModel "CategoryConfig")

/-- The fields that place an item in a category, as a document. -/
def toValue (c : CategoryKeys) : Value :=
  .object [("referenceField", .text c.referenceField),
    ("categorySlugField", .text c.categorySlugField)]

end CategoryKeys

namespace Components

/-- Reads the pages and widgets that are wanted. -/
def read (t : Shared) (v : Value) : Checked Components :=
  match v.actual t with
  | .map entries =>
    let given (name other : String) := optional [name, other] false flag entries
    ((given "itemPage" "item_page").both <| (given "indexPage" "index_page").both <|
      (given "categoryPage" "category_page").both <| (given "tableWidget" "table_widget").both <|
      (given "cardWidget" "card_widget")).map fun (i, x, c, t, w) => ⟨i, x, c, t, w⟩
  | _ => .fail (.notModel "ComponentsConfig")

/-- The pages and widgets that are wanted, as a document. -/
def toValue (c : Components) : Value :=
  .object [("itemPage", .bool c.itemPage), ("indexPage", .bool c.indexPage),
    ("categoryPage", .bool c.categoryPage), ("tableWidget", .bool c.tableWidget),
    ("cardWidget", .bool c.cardWidget)]

end Components

namespace Entry

/-- The name under which problems speak of entries. -/
def modelName : String := "CollectionConfig"

/-- Reads an entry. -/
def read (t : Shared) (v : Value) : Checked Entry :=
  match v.actual t with
  | .map entries =>
    ((optional ["collectionId", "collection_id"] "" text entries).both <|
      (optional ["pathPrefix", "path_prefix"] "" text entries).both <|
      (optional ["slugField", "slug_field"] "" text entries).both <|
      (optional ["references"] [] (listOrNull t (Directive.read t)) entries).both <|
      (optional ["category"] .none (nullable (CategoryKeys.read t)) entries).both <|
      (optional ["components"] .none (nullable (Components.read t)) entries)).map
      fun (i, p, s, r, c, w) => ⟨i, p, s, r, c, w⟩
  | _ => .fail (.notModel modelName)

/-- An entry as the document that lists all its fields. -/
def toValue (e : Entry) : Value :=
  .object [("collectionId", .text e.collectionId), ("pathPrefix", .text e.pathPrefix),
    ("slugField", .text e.slugField), ("references", .list (Directive.toValues e.references)),
    ("category", (e.category.map CategoryKeys.toValue).getD .null),
    ("components", (e.components.map Components.toValue).getD .null)]

end Entry

/-- Reads a list of entries; one bad entry refuses the list. -/
def readEntries (t : Shared) : Value → Checked (List Entry) := listOf t (Entry.read t)

/-- The name under which problems speak of configurations. -/
def configurationName : String := "DataConfig"

/-- Reads a configuration, given as its entries. -/
def readConfiguration (t : Shared) (v : Value) : Checked (List Entry) :=
  match v.actual t with
  | .map entries => optional ["collections"] [] (readEntries t) entries
  | _ => .fail (.notModel configurationName)

end WidgetContracts
