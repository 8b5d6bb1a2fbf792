/-
The keys of tags that stand in one list.

* `Tag.Level`: the lists of tags inside a list of tags, at any depth.
* `Tag.Unambiguous`: in none of these lists do two tags share a key.
* `FieldShape.Tagged`: a field has a tag with its key, inside which nothing is ambiguous.
* `CollectionShape.Keyed`: the fields of a shape have distinct keys, and those that hold content
  have no keys of the system.
* `CollectionShape.unambiguous_tags`: the tags of an embedded shape are unambiguous.
-/
import WidgetContracts.Proofs.Shape.Nesting
import WidgetContracts.Tag.Fields

namespace WidgetContracts

/-! ### Tags without shared keys -/

namespace Tag

/-- A list of tags stands inside another, at any depth, or is that list itself. -/
inductive Level : List Tag → List Tag → Prop
  | top (ts : List Tag) : Level ts ts
  | inside {ts us : List Tag} {t : Tag} (mem : t ∈ ts) (level : Level t.children us) : Level ts us

/-- In no list inside a list of tags, at any depth, do two tags share a key. -/
def Unambiguous (ts : List Tag) : Prop := ∀ us, Level ts us → (us.map key).Nodup

variable {ts : List Tag}

/-- Tags are unambiguous when they do not share keys, and the tags inside each of them do not. -/
lemma unambiguous_iff :
    Unambiguous ts ↔ (ts.map key).Nodup ∧ ∀ t ∈ ts, Unambiguous t.children := by
  constructor
  · intro h
    exact ⟨h ts (.top ts), fun t ht us hus => h us (.inside ht hus)⟩
  · rintro ⟨hkeys, hinside⟩ us hus
    cases hus with
    | top => exact hkeys
    | inside ht hlevel => exact hinside _ ht us hlevel

lemma unambiguous_nil : Unambiguous [] := unambiguous_iff.mpr ⟨.nil, nofun⟩

/-- Leaves are unambiguous when they do not share keys. -/
lemma unambiguous_of_leaves (hkeys : (ts.map key).Nodup) (hleaves : ∀ t ∈ ts, t.children = []) :
    Unambiguous ts := by
  refine unambiguous_iff.mpr ⟨hkeys, fun t ht => ?_⟩
  rw [hleaves t ht]
  exact unambiguous_nil

/-- Inside a group of leaves that do not share keys nothing is ambiguous. -/
lemma unambiguous_group {key description : String} {repeated : Bool} {trackBy : Option String}
    (hkeys : (ts.map Tag.key).Nodup) (hleaves : ∀ t ∈ ts, t.children = []) :
    Unambiguous (group key description repeated trackBy ts).children :=
  unambiguous_of_leaves hkeys hleaves

end Tag

open Tag (Unambiguous)

/-! ### The tags of fields -/

/-- A field has a tag with its key, inside which nothing is ambiguous. -/
def FieldShape.Tagged (f : FieldShape CollectionShape) : Prop :=
  ∃ t, f.tag? = some t ∧ t.key = f.key ∧ Unambiguous t.children

/-- A field that holds content has a tag with its key, inside which nothing is ambiguous if nothing
is in what the field embeds. -/
lemma FieldShape.tagged_of_isContent {f : FieldShape CollectionShape} (hf : f.isContent = true)
    (hinside : Unambiguous (embeddedTags f.shape)) : f.Tagged := by
  have hleaf : Unambiguous [] := Tag.unambiguous_nil
  rw [Tagged, tag?_eq, tagWith?]
  cases hc : f.category with
  | system => simp [isContent, hc] at hf
  | simple | richContent => exact ⟨_, rfl, rfl, hleaf⟩
  | image | media | address => 
      exact ⟨_, rfl, rfl, Tag.unambiguous_group (by decide) (by decide)⟩
  | reference | multiReference =>
      cases he : f.embedded with
      | false => exact ⟨_, rfl, rfl, hleaf⟩
      | true => exact ⟨_, rfl, rfl, hinside⟩

section

variable {fs : List (FieldShape CollectionShape)}

lemma map_key_fieldTags (h : ∀ f ∈ fs, f.Tagged) :
    (fieldTags fs).map Tag.key = fs.map (·.key) := by
  induction fs with
  | nil => rfl
  | cons f r ih =>
      rw [List.forall_mem_cons] at h
      obtain ⟨⟨t, ht, hkey, -⟩, hr⟩ := h
      rw [fieldTags, List.filterMap_cons_some ht, List.map_cons, List.map_cons, hkey, ← ih hr,
        fieldTags]

lemma unambiguous_children_of_mem_fieldTags (h : ∀ f ∈ fs, f.Tagged) :
    ∀ t ∈ fieldTags fs, Unambiguous t.children := by
  intro t ht
  obtain ⟨f, hf, htag⟩ := List.mem_filterMap.mp ht
  obtain ⟨u, hu, -, hchildren⟩ := h f hf
  obtain rfl := Option.some.inj (hu.symm.trans htag)
  exact hchildren

end

/-! ### The tags of shapes -/

namespace CollectionShape

/-- The fields of a shape have distinct keys, and those that hold content have no keys of the
system. -/
structure Keyed (s : CollectionShape) : Prop where
  nodup : (s.fields.map (·.key)).Nodup
  content : ∀ f ∈ s.fields, f.isContent = true → isSystemKey f.key = false

variable {s : CollectionShape}

lemma Keyed.nodup_filter (h : s.Keyed) (p : FieldShape CollectionShape → Bool) :
    ((s.fields.filter p).map (·.key)).Nodup :=
  (List.filter_sublist.map _).nodup h.nodup

/-- The identity is no field of content. -/
lemma Keyed.identityKey_notMem (h : s.Keyed) : identityKey ∉ s.contentFields.map (·.key) := by
  intro hmem
  obtain ⟨f, hf, hkey⟩ := List.mem_map.mp hmem
  obtain ⟨hfield, hcontent⟩ := List.mem_filter.mp hf
  have hsystem := h.content f hfield hcontent
  rw [hkey] at hsystem
  exact absurd hsystem (by decide)

/-- The fields of content are tagged, if the tags of the embedded shapes are unambiguous. -/
lemma tagged_of_mem_contentFields
    (hinside : ∀ f ∈ s.fields, ∀ t, f.shape = some t → Unambiguous t.tags) :
    ∀ f ∈ s.contentFields, f.Tagged := by
  intro f hf
  obtain ⟨hmem, hcontent⟩ := List.mem_filter.mp hf
  refine f.tagged_of_isContent hcontent ?_
  cases hshape : f.shape with
  | none => exact Tag.unambiguous_of_leaves (by decide) (by decide)
  | some t => exact hinside f hmem t hshape

/-- The tags of an embedded shape are unambiguous, by induction on the shapes inside it. -/
theorem unambiguous_tags (h : ∀ t : CollectionShape, t.Within s → t.Keyed) :
    Unambiguous s.tags := by
  induction s using ind with
  | h s ih =>
      obtain ⟨hself, hinside⟩ := forall_within_iff.mp h
      have htagged := tagged_of_mem_contentFields fun f hf t ht => ih f hf t ht (hinside f hf t ht)
      rw [tags_eq, Tag.unambiguous_iff, List.map_cons, List.nodup_cons, List.forall_mem_cons,
        map_key_fieldTags htagged]
      exact ⟨⟨hself.identityKey_notMem, hself.nodup_filter _⟩, Tag.unambiguous_nil,
        unambiguous_children_of_mem_fieldTags htagged⟩

end CollectionShape

end WidgetContracts
