/-
What the tags of fields say about the fields.

* `FieldShape.Plain`, `CollectionShape.Plain`: shapes whose keys and names fit on a line.
* `Depicts`, `DepictsInside`: the tag that stands for a field, by its category, and the tags inside
  the group of an embedded reference.
* `CollectionShape.legible_of_mem_tags`: the tags of a plain shape are legible.
* `CollectionShape.depicts_contentFields`: the tags of the content fields depict them one by one.
-/
import Mathlib.Data.List.Forall2
import WidgetContracts.Proofs.Shape.Nesting
import WidgetContracts.Proofs.Tag.Decode
import WidgetContracts.Tag.Fields

namespace WidgetContracts

/-! ### Plain shapes -/

/-- A field whose key holds no comma and no line feed, and whose display name holds no line feed. -/
structure FieldShape.Plain {σ : Type} (f : FieldShape σ) : Prop where
  key : Avoids f.key [',', '\n']
  displayName : ∀ x ∈ f.displayName, Avoids x ['\n']

instance {σ : Type} (f : FieldShape σ) : Decidable f.Plain :=
  decidable_of_iff (Avoids f.key [',', '\n'] ∧ ∀ x ∈ f.displayName, Avoids x ['\n'])
    ⟨fun h => ⟨h.1, h.2⟩, fun h => ⟨h.key, h.displayName⟩⟩

/-- A shape whose label holds no line feed, and whose fields are plain, as are those of the shapes
embedded in it at any depth. -/
structure CollectionShape.Plain (s : CollectionShape) : Prop where
  label : Avoids s.label ['\n']
  fields : ∀ t : CollectionShape, t.Within s → ∀ f ∈ t.fields, f.Plain

/-! ### Depiction -/

/-- What the group of a field is described by: the display name if it is given, else the key. -/
def FieldShape.caption {σ : Type} (f : FieldShape σ) : String := (given f.displayName).getD f.key

mutual

/-- A tag depicts a field. -/
inductive Depicts : FieldShape CollectionShape → Tag → Prop
  | simple {f : FieldShape CollectionShape} (category : f.category = .simple) :
      Depicts f (.data f.key f.valueType.word (given f.displayName))
  | richContent {f : FieldShape CollectionShape} (category : f.category = .richContent) :
      Depicts f (.data f.key "string" (given f.displayName))
  | image {f : FieldShape CollectionShape} (category : f.category = .image) :
      Depicts f (.group f.key f.caption false none
        [.data "url" "string" none, .data "altText" "string" none, .data "width" "number" none,
          .data "height" "number" none])
  | media {f : FieldShape CollectionShape} (category : f.category = .media) :
      Depicts f (.group f.key f.caption false none
        [.data "url" "string" none, .data "title" "string" none])
  | address {f : FieldShape CollectionShape} (category : f.category = .address) :
      Depicts f (.group f.key f.caption false none
        [.data "formatted" "string" none, .data "city" "string" none,
          .data "country" "string" none])
  | link {f : FieldShape CollectionShape} (category : f.category = .reference)
      (embedded : f.embedded = false) : Depicts f (.data f.key "string" (some "Reference ID"))
  | links {f : FieldShape CollectionShape} (category : f.category = .multiReference)
      (embedded : f.embedded = false) : Depicts f (.data f.key "string" (some "Reference IDs"))
  | item {f : FieldShape CollectionShape} {ts : List Tag} (category : f.category = .reference)
      (embedded : f.embedded = true) (inside : DepictsInside f.shape ts) :
      Depicts f (.group f.key f.caption false none ts)
  | items {f : FieldShape CollectionShape} {ts : List Tag} (category : f.category = .multiReference)
      (embedded : f.embedded = true) (inside : DepictsInside f.shape ts) :
      Depicts f (.group f.key f.caption true (some "_id") ts)

/-- Tags depict what is embedded in a field: the identity and the content fields of the shape, or
three fixed properties where the shape is unknown. -/
inductive DepictsInside : Option CollectionShape → List Tag → Prop
  | known {s : CollectionShape} {ts : List Tag} (fields : List.Forall₂ Depicts s.contentFields ts) :
      DepictsInside (some s) (.data "_id" "string" (some "Item ID") :: ts)
  | unknown : DepictsInside none
      [.data "_id" "string" none, .data "title" "string" none, .data "slug" "string" none]

end

/-! ### The tags of a plain shape are legible -/

namespace FieldShape

section

variable {σ : Type} {f : FieldShape σ}

lemma Plain.avoids_key (h : f.Plain) : Avoids f.key ['\n'] :=
  h.key.of_subset (by decide)

lemma Plain.avoids_caption (h : f.Plain) : Avoids f.caption ['\n'] := by
  rw [caption]
  cases hd : given f.displayName with
  | none => exact h.avoids_key
  | some x => exact h.displayName x (Tag.mem_of_mem_given hd)

/-- The tag of a plain field is legible if the tags inside it are. -/
lemma Plain.legible_of_tagWith? (h : f.Plain) {ts : List Tag} (hts : ∀ t ∈ ts, t.Legible) {t : Tag}
    (ht : f.tagWith? ts = some t) : t.Legible := by
  have hgroup : ∀ (r : Bool) (b : Option String) (inside : List Tag),
      (∀ x ∈ b, Avoids x ['\n']) → (∀ u ∈ inside, u.Legible) →
        (Tag.group f.key f.caption r b inside).Legible := by
    intro r b inside hb hinside
    exact .group h.avoids_key h.avoids_caption hb hinside
  have hreference : (if f.embedded then f.embeddedGroup ts else f.linkTag).Legible := by
    split
    · refine hgroup _ _ _ ?_ hts
      split <;> decide
    · refine .data h.key (by decide) ?_
      split <;> decide
  rw [tagWith?] at ht
  cases hc : f.category with
  | system =>
      rw [hc] at ht
      obtain ⟨-, htag⟩ := Option.ite_none_right_eq_some.mp ht
      obtain rfl := Option.some.inj htag
      decide
  | image | media | address =>
      rw [hc] at ht
      obtain rfl := Option.some.inj ht
      exact hgroup _ _ _ (by decide) (by decide)
  | reference | multiReference =>
      rw [hc] at ht
      obtain rfl := Option.some.inj ht
      exact hreference
  | richContent =>
      rw [hc] at ht
      obtain rfl := Option.some.inj ht
      exact .data h.key (by decide) h.displayName
  | simple =>
      rw [hc] at ht
      obtain rfl := Option.some.inj ht
      refine .data h.key ?_ h.displayName
      cases f.valueType <;> decide

end

end FieldShape

namespace CollectionShape

/-- The tags of given fields of a plain shape are legible if those of the embedded shapes are. -/
lemma legible_of_mem_fieldTags {fs : List (FieldShape CollectionShape)}
    (h : ∀ f ∈ fs, f.Plain ∧ ∀ s, f.shape = some s → ∀ t ∈ s.tags, t.Legible) :
    ∀ t ∈ fieldTags fs, t.Legible := by
  intro t ht
  obtain ⟨f, hf, htag⟩ := List.mem_filterMap.mp ht
  rw [FieldShape.tag?_eq] at htag
  refine (h f hf).1.legible_of_tagWith? ?_ htag
  cases hs : f.shape with
  | none => decide
  | some s => exact (h f hf).2 s hs

/-- The tags of a shape are legible if its fields are plain at every depth. -/
lemma legible_of_mem_tags {s : CollectionShape}
    (h : ∀ u : CollectionShape, u.Within s → ∀ f ∈ u.fields, f.Plain) :
    ∀ t ∈ s.tags, t.Legible := by
  induction s using ind with
  | h s ih =>
      obtain ⟨hself, hinside⟩ := forall_within_iff.mp h
      rw [tags_eq, List.forall_mem_cons]
      refine ⟨by decide, legible_of_mem_fieldTags fun f hf => ?_⟩
      have hmem : f ∈ s.fields := List.mem_of_mem_filter hf
      exact ⟨hself f hmem, fun t ht => ih f hmem t ht (hinside f hmem t ht)⟩

/-- The tags of some fields of a plain shape are legible. -/
lemma Plain.legible_of_mem_fieldTags {s : CollectionShape} (h : s.Plain)
    {fs : List (FieldShape CollectionShape)} (hfs : fs ⊆ s.fields) :
    ∀ t ∈ fieldTags fs, t.Legible := by
  obtain ⟨hself, hinside⟩ := forall_within_iff.mp h.fields
  exact CollectionShape.legible_of_mem_fieldTags fun f hf =>
    ⟨hself f (hfs hf), fun t ht => legible_of_mem_tags (hinside f (hfs hf) t ht)⟩

end CollectionShape

/-! ### The tags of fields depict them -/

/-- What is embedded in a field is depicted if the content of the embedded shape is. -/
lemma depictsInside_embeddedTags {o : Option CollectionShape}
    (h : ∀ s, o = some s → List.Forall₂ Depicts s.contentFields
      (Tag.trimAll (fieldTags s.contentFields))) :
    DepictsInside o (Tag.trimAll (embeddedTags o)) := by
  cases o with
  | none => exact .unknown
  | some s =>
      rw [embeddedTags, CollectionShape.tags_eq]
      exact .known (h s rfl)

/-- A field that holds content has a tag, which depicts it. -/
lemma FieldShape.exists_depicts {f : FieldShape CollectionShape} (hf : f.isContent = true)
    (h : DepictsInside f.shape (Tag.trimAll (embeddedTags f.shape))) :
    ∃ t, f.tag? = some t ∧ Depicts f t.trim := by
  rw [tag?_eq, tagWith?]
  cases hc : f.category with
  | system => simp [isContent, hc] at hf
  | simple => exact ⟨_, rfl, .simple hc⟩
  | image => exact ⟨_, rfl, .image hc⟩
  | media => exact ⟨_, rfl, .media hc⟩
  | address => exact ⟨_, rfl, .address hc⟩
  | richContent => exact ⟨_, rfl, .richContent hc⟩
  | reference =>
      cases he : f.embedded with
      | false =>
          have htag : f.linkTag = .data f.key "string" (some "Reference ID") := by
            rw [linkTag, hc]
            rfl
          exact ⟨f.linkTag, rfl, htag ▸ .link hc he⟩
      | true =>
          have htag : f.embeddedTag =
              .group f.key f.caption false none (embeddedTags f.shape) := by
            rw [embeddedTag, embeddedGroup, hc]
            rfl
          exact ⟨f.embeddedTag, rfl, htag ▸ .item hc he h⟩
  | multiReference =>
      cases he : f.embedded with
      | false =>
          have htag : f.linkTag = .data f.key "string" (some "Reference IDs") := by
            rw [linkTag, hc]
            rfl
          exact ⟨f.linkTag, rfl, htag ▸ .links hc he⟩
      | true =>
          have htag : f.embeddedTag =
              .group f.key f.caption true (some "_id") (embeddedTags f.shape) := by
            rw [embeddedTag, embeddedGroup, hc]
            rfl
          exact ⟨f.embeddedTag, rfl, htag ▸ .items hc he h⟩

/-- Fields that all have tags which depict them are depicted by their tags, one by one. -/
lemma forall₂_depicts {fs : List (FieldShape CollectionShape)}
    (h : ∀ f ∈ fs, ∃ t, f.tag? = some t ∧ Depicts f t.trim) :
    List.Forall₂ Depicts fs (Tag.trimAll (fieldTags fs)) := by
  induction fs with
  | nil => exact .nil
  | cons f r ih =>
      rw [List.forall_mem_cons] at h
      obtain ⟨⟨t, ht, hdepicts⟩, hr⟩ := h
      rw [fieldTags, List.filterMap_cons_some ht]
      exact .cons hdepicts (ih hr)

/-- The tags of the content fields of a shape depict them. -/
lemma CollectionShape.depicts_contentFields (s : CollectionShape) :
    List.Forall₂ Depicts s.contentFields (Tag.trimAll (fieldTags s.contentFields)) := by
  induction s using ind with
  | h s ih =>
      refine forall₂_depicts fun f hf => ?_
      obtain ⟨hmem, hcontent⟩ := List.mem_filter.mp hf
      exact f.exists_depicts hcontent (depictsInside_embeddedTags fun t ht => ih f hmem t ht)

/-- **Fields that hold content are depicted by their tags**, one by one and in order. -/
lemma depicts_fieldTags {fs : List (FieldShape CollectionShape)}
    (h : ∀ f ∈ fs, f.isContent = true) :
    List.Forall₂ Depicts fs (Tag.trimAll (fieldTags fs)) :=
  forall₂_depicts fun f hf => f.exists_depicts (h f hf)
    (depictsInside_embeddedTags fun s _ => s.depicts_contentFields)

end WidgetContracts
