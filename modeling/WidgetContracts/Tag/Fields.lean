/-
The tags of fields.

* `anchor`, `button`, `fastPhase`: the element types and the phase that tags use.
* `Tag.image`, `Tag.media`, `Tag.address`, `Tag.category`, `Tag.breadcrumbs`: groups of fixed shape.
* `FieldShape.tag?`: the tag of a field, if it has one; of the fields of the system only the
  identity has a tag.
* `FieldShape.embeddedTag`: the group of an embedded reference, with the tags of the referenced
  collection, or with three fixed tags where its shape is unknown.
* `CollectionShape.tags`: the identity, then the content fields.
* `contentTags_eq`: the tags of the content fields, without the recursion.
-/
import WidgetContracts.Tag.Basic

namespace WidgetContracts

/-- The element type of links. -/
def anchor : String := "HTMLAnchorElement"

/-- The element type of buttons. -/
def button : String := "HTMLButtonElement"

/-- The phase of data that changes while the page is shown. -/
def fastPhase : String := "fast+interactive"

namespace Tag

/-- A leaf with text data and no description. -/
def stringData (key : String) : Tag := data key "string" none

/-- The tag of the identity of an item. -/
def itemId : Tag := data identityKey "string" (some "Item ID")

/-- The description of a group: the given one, else the key. -/
def describe (key : String) (description : Option String) : String := (given description).getD key

/-- The group of an image. -/
def image (key : String) (description : Option String) : Tag :=
  group key (describe key description) false none
    [stringData "url", stringData "altText", data "width" "number" none,
      data "height" "number" none]

/-- The group of a video or a sound. -/
def media (key : String) (description : Option String) : Tag :=
  group key (describe key description) false none [stringData "url", stringData "title"]

/-- The group of an address. -/
def address (key : String) (description : Option String) : Tag :=
  group key (describe key description) false none
    [stringData "formatted", stringData "city", stringData "country"]

/-- The group of the current category. -/
def category : Tag :=
  group "category" "Current category" false none
    [stringData identityKey, stringData "slug", stringData "title", stringData "description",
      interactive "categoryLink" anchor none]

/-- The group of the navigation breadcrumbs. -/
def breadcrumbs : Tag :=
  group "breadcrumbs" "Navigation breadcrumbs" true (some "slug")
    [stringData "slug", stringData "title", stringData "url", interactive "link" anchor none]

/-- The tags of a referenced collection whose shape is unknown. -/
def unknownShape : List Tag := [stringData identityKey, stringData "title", stringData "slug"]

end Tag

namespace FieldShape

variable {σ : Type}

/-- The group of an embedded reference around given tags; a reference to several items is repeated
and tracked by the identity. -/
def embeddedGroup (f : FieldShape σ) (tags : List Tag) : Tag :=
  let multiple := f.category == .multiReference
  .group f.key (Tag.describe f.key f.displayName) multiple
    (if multiple then some identityKey else none) tags

/-- The tag of a reference that is not embedded. -/
def linkTag (f : FieldShape σ) : Tag :=
  .data f.key "string"
    (some (if f.category == .multiReference then "Reference IDs" else "Reference ID"))

/-- The tag of a field, if it has one; `tags` are those inside an embedded reference. -/
def tagWith? (f : FieldShape σ) (tags : List Tag) : Option Tag :=
  match f.category with
  | .system => if f.key == identityKey then some Tag.itemId else none
  | .image => some (Tag.image f.key f.displayName)
  | .media => some (Tag.media f.key f.displayName)
  | .address => some (Tag.address f.key f.displayName)
  | .reference | .multiReference => some (if f.embedded then f.embeddedGroup tags else f.linkTag)
  | .richContent => some (.data f.key "string" f.displayName)
  | .simple => some (.data f.key f.valueType.word f.displayName)

end FieldShape

mutual

/-- The identity of an item, then the content fields. -/
def CollectionShape.tags : CollectionShape → List Tag
  | ⟨_, _, _, fields⟩ => Tag.itemId :: contentTags fields

/-- The tags of the content fields among given fields. -/
def contentTags : List (FieldShape CollectionShape) → List Tag
  | [] => []
  | f :: r =>
    if f.isContent then
      match f.tag? with
      | some t => t :: contentTags r
      | none => contentTags r
    else contentTags r

/-- The tag of a field, if it has one. -/
def FieldShape.tag? : FieldShape CollectionShape → Option Tag
  | ⟨key, category, valueType, displayName, embedded, shape⟩ =>
    FieldShape.tagWith? (⟨key, category, valueType, displayName, embedded, shape⟩ :
      FieldShape CollectionShape) (embeddedTags shape)

/-- The tags inside an embedded reference. -/
def embeddedTags : Option CollectionShape → List Tag
  | some s => s.tags
  | none => Tag.unknownShape

end

/-- The group of an embedded reference. -/
def FieldShape.embeddedTag (f : FieldShape CollectionShape) : Tag :=
  f.embeddedGroup (embeddedTags f.shape)

/-- The tags of fields. -/
def fieldTags (fields : List (FieldShape CollectionShape)) : List Tag :=
  fields.filterMap (·.tag?)

theorem FieldShape.tag?_eq (f : FieldShape CollectionShape) :
    f.tag? = f.tagWith? (embeddedTags f.shape) := by
  cases f
  rfl

/-- The tags of the content fields are the tags of the fields that hold content. -/
theorem contentTags_eq (fields : List (FieldShape CollectionShape)) :
    contentTags fields = fieldTags (fields.filter (·.isContent)) := by
  induction fields with
  | nil => rfl
  | cons f r ih =>
    rw [contentTags]
    by_cases h : f.isContent <;> simp only [h, if_true, List.filter_cons, fieldTags,
      List.filterMap_cons] at ih ⊢
    · cases f.tag? <;> simp [ih]
    · simpa using ih

theorem CollectionShape.tags_eq (s : CollectionShape) :
    s.tags = Tag.itemId :: fieldTags s.contentFields := by
  obtain ⟨_, _, _, fields⟩ := s
  rw [CollectionShape.tags, contentTags_eq]
  rfl

end WidgetContracts
