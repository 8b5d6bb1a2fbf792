/-
What the text of a contract says about its collection.

* `CollectionShape.Shows`: the tags that a widget shows of a collection, written out for each of the
  four kinds of widget.
* `CollectionShape.legible_of_mem_widgetTags`: the tags of a plain shape's contracts are legible.
* `CollectionShape.shows_widgetTags`: the tags of a contract, up to empty descriptions, are those
  that its widget shows.
* `contract_text_decodes`: the text of a contract is read back as its name, its description and the
  tags that its widget shows.
-/
import WidgetContracts.Proofs.Contract.Decode
import WidgetContracts.Proofs.Naming.Separators
import WidgetContracts.Proofs.Tag.Depiction

namespace WidgetContracts

/-! ### What the widgets show -/

/-- The navigation of a page: the category, if items are placed in one, and the breadcrumbs. -/
def CollectionShape.shownNavigation (s : CollectionShape) : List Tag :=
  (if s.hasCategory then
    [.group "category" "Current category" false none
      [.data "_id" "string" none, .data "slug" "string" none, .data "title" "string" none,
        .data "description" "string" none, .interactive "categoryLink" "HTMLAnchorElement" none]]
  else []) ++
    [.group "breadcrumbs" "Navigation breadcrumbs" true (some "slug")
      [.data "slug" "string" none, .data "title" "string" none, .data "url" "string" none,
        .interactive "link" "HTMLAnchorElement" none]]

/-- The keys of the columns of a table in parentheses, if there are any. -/
def CollectionShape.columnNote (s : CollectionShape) : String :=
  let keys := ", ".intercalate (s.tableFields.map (·.key))
  if keys = "" then "" else " (" ++ keys ++ ")"

/-- The card of a collection: three fixed tags, and a tag for each field of the card. -/
inductive CollectionShape.ShowsCard (s : CollectionShape) : List Tag → Prop
  | card {ts : List Tag} (fields : List.Forall₂ Depicts s.cardFields ts) :
      ShowsCard s ([.data "_id" "string" none,
        .data "url" "string" (some "Full URL to item page"),
        .interactive "itemLink" "HTMLAnchorElement" none] ++ ts)

/-- The tags that a widget shows of a collection. -/
inductive CollectionShape.Shows (s : CollectionShape) : Widget → List Tag → Prop
  | item {ts : List Tag} (fields : List.Forall₂ Depicts s.contentFields ts) :
      Shows s .item ([.data "_id" "string" (some "Item ID"),
        .interactive "itemLink" "HTMLAnchorElement" (some "Link to item")] ++ ts ++
          s.shownNavigation)
  | list {ts : List Tag} (card : s.ShowsCard ts) :
      Shows s .list ([.group "items" "Items in the list" true (some "_id") ts,
        .data "totalCount" "number" (some "Total items in collection"),
        .variant "hasMore" "boolean" "fast+interactive" (some "More items available"),
        .variant "isLoading" "boolean" "fast+interactive" (some "Loading state"),
        .interactive "loadMoreButton" "HTMLButtonElement" (some "Load more trigger")] ++
          s.shownNavigation)
  | table :
      Shows s .table [
        .group "columns" ("Table column definitions" ++ s.columnNote) true (some "fieldName")
          [.data "fieldName" "string" none, .data "label" "string" none,
            .data "sortable" "boolean" none,
            .variant "sortDirection" "\"enum (NONE | ASC | DESC)\"" "fast+interactive" none,
            .interactive "headerButton" "HTMLButtonElement" none],
        .group "rows" "Table rows" true (some "_id")
          [.data "_id" "string" none, .data "url" "string" none,
            .interactive "rowLink" "HTMLAnchorElement" none,
            .group "cells" ("Cell values" ++ s.columnNote) true (some "fieldName")
              [.data "fieldName" "string" none, .data "value" "string" (some "Formatted value")]],
        .data "totalCount" "number" none,
        .variant "currentPage" "number" "fast+interactive" none,
        .data "pageSize" "number" none,
        .data "totalPages" "number" none,
        .interactive "prevButton" "HTMLButtonElement" none,
        .interactive "nextButton" "HTMLButtonElement" none,
        .variant "hasPrev" "boolean" "fast+interactive" none,
        .variant "hasNext" "boolean" "fast+interactive" none]
  | card {ts : List Tag} (card : s.ShowsCard ts) : Shows s .card ts

namespace CollectionShape

variable {s : CollectionShape}

/-- A description says which columns there are by a note at its end. -/
lemma withColumns_eq (s : CollectionShape) (description : String) :
    s.withColumns description = description ++ s.columnNote := by
  rw [withColumns, columnNote, columnKeys]
  split
  · rw [String.append_empty]
  · rw [String.append_assoc, String.append_assoc, String.append_assoc]

/-- What stands on a card is content. -/
lemma isContent_of_isCard {f : FieldShape CollectionShape} (h : f.isCard = true) :
    f.isContent = true := by
  unfold FieldShape.isCard at h
  unfold FieldShape.isContent
  cases hc : f.category <;> simp_all

/-! ### The tags of contracts are those shown -/

/-- The tags of the navigation are those that are shown: no description among them is empty. -/
lemma trimAll_navigationTags (s : CollectionShape) :
    Tag.trimAll s.navigationTags = s.shownNavigation := by
  rw [navigationTags, shownNavigation]
  cases s.hasCategory <;> rfl

lemma showsCard_cardTags (s : CollectionShape) : s.ShowsCard (Tag.trimAll s.cardTags) := by
  refine .card (depicts_fieldTags fun f hf => ?_)
  exact isContent_of_isCard (List.mem_filter.mp hf).2

/-- The tags of a contract, up to empty descriptions, are those that its widget shows. -/
lemma shows_widgetTags (s : CollectionShape) (w : Widget) :
    s.Shows w (Tag.trimAll (s.widgetTags w)) := by
  cases w with
  | item =>
      rw [widgetTags, itemTags, Tag.trimAll_append, Tag.trimAll_append, trimAll_navigationTags]
      exact .item s.depicts_contentFields
  | list =>
      rw [widgetTags, listTags, Tag.trimAll_append, trimAll_navigationTags]
      exact .list s.showsCard_cardTags
  | table =>
      rw [widgetTags, tableTags, columnsTag, cellsTag, withColumns_eq, withColumns_eq]
      exact .table
  | card => exact .card s.showsCard_cardTags

/-! ### The tags of contracts are legible -/

lemma legible_of_mem_navigationTags : ∀ t ∈ s.navigationTags, t.Legible := by
  rw [navigationTags]
  cases s.hasCategory <;> exact by decide

lemma Plain.legible_of_mem_cardTags (h : s.Plain) : ∀ t ∈ s.cardTags, t.Legible := by
  rw [cardTags, List.forall_mem_append]
  exact ⟨by decide, h.legible_of_mem_fieldTags (List.filter_subset_self _)⟩

/-- The note about the columns is made of the keys of fields, so that it stays on its line. -/
lemma Plain.avoids_columnNote (h : s.Plain) : Avoids s.columnNote ['\n'] := by
  have hkeys : Avoids (", ".intercalate (s.tableFields.map (·.key))) ['\n'] := by
    refine avoids_intercalate (by decide) ?_
    rw [List.forall_mem_map]
    intro f hf
    exact (h.fields s .refl f (List.mem_of_mem_filter hf)).avoids_key
  rw [columnNote]
  split
  · decide
  · rw [avoids_append, avoids_append]
    exact ⟨⟨by decide, hkeys⟩, by decide⟩

/-- What a description says about the columns of a plain shape stays on its line. -/
lemma Plain.avoids_withColumns (h : s.Plain) {d : String} (hd : Avoids d ['\n']) :
    Avoids (s.withColumns d) ['\n'] := by
  rw [withColumns_eq, avoids_append]
  exact ⟨hd, h.avoids_columnNote⟩

lemma Plain.legible_columnsTag (h : s.Plain) : s.columnsTag.Legible :=
  .group (by decide) (h.avoids_withColumns (by decide)) (by decide) (by decide)

lemma Plain.legible_cellsTag (h : s.Plain) : s.cellsTag.Legible :=
  .group (by decide) (h.avoids_withColumns (by decide)) (by decide) (by decide)

/-- Of the tags of a table only two say something about its collection: the columns and the cells.
-/
lemma Plain.legible_of_mem_tableTags (h : s.Plain) : ∀ t ∈ s.tableTags, t.Legible := by
  rw [tableTags, List.forall_mem_cons, List.forall_mem_cons]
  refine ⟨h.legible_columnsTag, .group (by decide) (by decide) (by decide) ?_, by decide⟩
  simp only [List.forall_mem_cons]
  exact ⟨by decide, by decide, by decide, h.legible_cellsTag, by simp⟩

/-- The tags of the contracts of a plain shape are legible. -/
lemma Plain.legible_of_mem_widgetTags (h : s.Plain) (w : Widget) :
    ∀ t ∈ s.widgetTags w, t.Legible := by
  cases w with
  | item =>
      rw [widgetTags, itemTags, List.forall_mem_append, List.forall_mem_append]
      exact ⟨⟨by decide, h.legible_of_mem_fieldTags (List.filter_subset_self _)⟩,
        legible_of_mem_navigationTags⟩
  | list =>
      rw [widgetTags, listTags, List.forall_mem_append, List.forall_mem_cons]
      exact ⟨⟨.group (by decide) (by decide) (by decide) h.legible_of_mem_cardTags, by decide⟩,
        legible_of_mem_navigationTags⟩
  | table => exact h.legible_of_mem_tableTags
  | card => exact h.legible_of_mem_cardTags

lemma widgetTags_ne_nil (s : CollectionShape) (w : Widget) : s.widgetTags w ≠ [] := by
  cases w <;> exact List.cons_ne_nil _ _

end CollectionShape

/-- **The text of a contract is read back** as its name, its description and the tags that its
widget shows of the collection. -/
theorem contract_text_decodes {s : CollectionShape} (h : s.Plain) (w : Widget) :
    ∃ ts, Contract.decode? (s.contract w).descriptor.render =
        some ⟨contractName s.collectionId w, w.purpose ++ s.label, ts⟩ ∧
      s.Shows w ts := by
  have hname : Avoids (s.contract w).name ['\n'] := by
    intro c hc hmem
    obtain rfl := List.mem_singleton.mp hmem
    exact lf_notMem_contractName _ _ hc
  have hdescription : Avoids (s.contract w).description ['\n'] := by
    refine avoids_append.mpr ⟨?_, h.label⟩
    cases w <;> decide
  exact ⟨_, Contract.decode?_render hname hdescription (s.widgetTags_ne_nil w)
    (h.legible_of_mem_widgetTags w), s.shows_widgetTags w⟩

/-! ### Notes with their writers and the books of these -/

namespace Sample

/-- Books, the publisher of which is embedded with an unknown shape. -/
def books : CollectionShape :=
  ⟨"books", some "Books", ⟨"books", "", "", [], none, none⟩,
    [⟨"title", .simple, .string, some "Title, in full\x7d", false, none⟩,
      ⟨"publisher", .reference, .string, some "", true, none⟩]⟩

/-- People with their books. -/
def people : CollectionShape :=
  ⟨"people", some "People", ⟨"people", "", "", [], none, none⟩,
    [⟨"portrait", .image, .string, none, false, none⟩,
      ⟨"books", .multiReference, .string, none, true, some books⟩]⟩

/-- Notes, each with its writer in place and links to other notes; keys and names hold the marks of
the text of a contract. -/
def notes : CollectionShape :=
  ⟨"reading-notes", none, ⟨"reading-notes", "/notes", "slug", [], some ⟨"topic", "topics"⟩, none⟩,
    [⟨"_id", .system, .string, none, false, none⟩,
      ⟨"pages\x7d: tags", .simple, .number, some "Count, description: all", false, none⟩,
      ⟨"writer", .reference, .string, some "- tag: x", true, some people⟩,
      ⟨"others", .multiReference, .string, none, false, none⟩]⟩

lemma plain_books : ∀ t : CollectionShape, t.Within books → ∀ f ∈ t.fields, f.Plain := by
  refine CollectionShape.forall_within_iff.mpr ⟨by decide, ?_⟩
  simp [books]

lemma plain_people : ∀ t : CollectionShape, t.Within people → ∀ f ∈ t.fields, f.Plain := by
  refine CollectionShape.forall_within_iff.mpr ⟨by decide, ?_⟩
  simpa [people] using plain_books

lemma plain_notes : notes.Plain := by
  refine ⟨by decide, CollectionShape.forall_within_iff.mpr ⟨by decide, ?_⟩⟩
  simpa [notes] using plain_people

end Sample

theorem contract_text_decodes_sample :
    Sample.notes.Plain ∧
      ∃ ts, Contract.decode? (Sample.notes.contract .item).descriptor.render =
          some ⟨"ReadingNotesItem", "Item page for reading-notes", ts⟩ ∧
        Sample.notes.Shows .item ts :=
  ⟨Sample.plain_notes, contract_text_decodes Sample.plain_notes .item⟩

end WidgetContracts
