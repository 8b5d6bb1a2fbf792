/-
Contracts of the four kinds of widget.

* `cardTags`: the tags of a card, which are also those of each item of a list.
* `itemTags`, `listTags`, `tableTags`: the tags of the other kinds.
* `Contract`, `contract`: name, description and tags of a widget's contract for a collection.
* `Descriptor`, `Contract.descriptor`: a contract whose tags are already text.
* `Descriptor.render`: the text of a contract.
-/
import WidgetContracts.Tag.Fields

namespace WidgetContracts

namespace CollectionShape

/-- The category, if items are placed in one, and the breadcrumbs. -/
def navigationTags (s : CollectionShape) : List Tag :=
  (if s.hasCategory then [Tag.category] else []) ++ [Tag.breadcrumbs]

/-- The tags of a card. -/
def cardTags (s : CollectionShape) : List Tag :=
  [Tag.stringData identityKey, .data "url" "string" (some "Full URL to item page"),
    .interactive "itemLink" anchor none] ++ fieldTags s.cardFields

/-- The tags of the page of an item. -/
def itemTags (s : CollectionShape) : List Tag :=
  [Tag.itemId, .interactive "itemLink" anchor (some "Link to item")] ++
    fieldTags s.contentFields ++ s.navigationTags

/-- The tags of a list page. -/
def listTags (s : CollectionShape) : List Tag :=
  [.group "items" "Items in the list" true (some identityKey) s.cardTags,
    .data "totalCount" "number" (some "Total items in collection"),
    .variant "hasMore" "boolean" fastPhase (some "More items available"),
    .variant "isLoading" "boolean" fastPhase (some "Loading state"),
    .interactive "loadMoreButton" button (some "Load more trigger")] ++ s.navigationTags

/-- The keys of the columns of a table, joined by commas. -/
def columnKeys (s : CollectionShape) : String :=
  ", ".intercalate (s.tableFields.map (·.key))

/-- A description followed by the keys of the columns, if there are any. -/
def withColumns (s : CollectionShape) (description : String) : String :=
  if s.columnKeys = "" then description else description ++ " (" ++ s.columnKeys ++ ")"

/-- The type of the data that says how a column is sorted. -/
def sortDirectionType : String := "\"enum (NONE | ASC | DESC)\""

/-- The group of the columns of a table. -/
def columnsTag (s : CollectionShape) : Tag :=
  .group "columns" (s.withColumns "Table column definitions") true (some "fieldName")
    [Tag.stringData "fieldName", Tag.stringData "label", .data "sortable" "boolean" none,
      .variant "sortDirection" sortDirectionType fastPhase none,
      .interactive "headerButton" button none]

/-- The group of the cells of a row. -/
def cellsTag (s : CollectionShape) : Tag :=
  .group "cells" (s.withColumns "Cell values") true (some "fieldName")
    [Tag.stringData "fieldName", .data "value" "string" (some "Formatted value")]

/-- The tags of a table. -/
def tableTags (s : CollectionShape) : List Tag :=
  [s.columnsTag,
    .group "rows" "Table rows" true (some identityKey)
      [Tag.stringData identityKey, Tag.stringData "url", .interactive "rowLink" anchor none,
        s.cellsTag],
    .data "totalCount" "number" none,
    .variant "currentPage" "number" fastPhase none,
    .data "pageSize" "number" none,
    .data "totalPages" "number" none,
    .interactive "prevButton" button none,
    .interactive "nextButton" button none,
    .variant "hasPrev" "boolean" fastPhase none,
    .variant "hasNext" "boolean" fastPhase none]

/-- The tags of the contract of a widget. -/
def widgetTags (s : CollectionShape) : Widget → List Tag
  | .item => s.itemTags
  | .list => s.listTags
  | .table => s.tableTags
  | .card => s.cardTags

end CollectionShape

/-- The words in front of the label in the description of a contract. -/
def Widget.purpose : Widget → String
  | item => "Item page for "
  | list => "List page for "
  | table => "Table widget for "
  | card => "Card widget for "

/-- A contract. -/
structure Contract where
  name : String
  description : String
  tags : List Tag
  deriving Repr

/-- A contract whose tags are text. -/
structure Descriptor where
  name : String
  description : String
  body : String
  deriving DecidableEq, Repr

/-- The contract of a widget for a collection. -/
def CollectionShape.contract (s : CollectionShape) (w : Widget) : Contract :=
  ⟨contractName s.collectionId w, w.purpose ++ s.label, s.widgetTags w⟩

/-- The indentation of the outermost tags of a contract. -/
def outerIndent : Int := 2

/-- A contract with its tags as text. -/
def Contract.descriptor (c : Contract) : Descriptor :=
  ⟨c.name, c.description, "\n".intercalate (Tag.renderAll outerIndent c.tags)⟩

/-- The text of a contract. -/
def Descriptor.render (d : Descriptor) : String :=
  "name: " ++ d.name ++ "\ndescription: " ++ d.description ++ "\ntags:\n" ++ d.body

end WidgetContracts
