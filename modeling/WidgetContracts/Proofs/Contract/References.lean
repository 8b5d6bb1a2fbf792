/-
What references lead to shows on the pages of items only.

* `FieldShape.Akin`, `CollectionShape.Akin`: fields, and shapes, that are the same but for what
  references embed.
* `akin_resolveField`, `akin_resolve`: resolving a collection changes nothing but what references
  embed, whatever the source and the path.
* `CollectionShape.Akin.cardFields_eq`, `CollectionShape.Akin.tableFields_eq`: what cards and tables
  show is the same for shapes that are akin.
* `references_show_on_items_only`: so that lists, tables and cards of one collection have the same
  text, however its references resolve.
-/
import WidgetContracts.Proofs.Contract.Content

namespace WidgetContracts

/-! ### The same but for what references embed -/

/-- Two fields are the same but for what they embed, and the same altogether unless they are
references. -/
structure FieldShape.Akin (f g : FieldShape CollectionShape) : Prop where
  same : f.Matches g
  eq_of_not_isReference : f.isReference = false → f = g

/-- Two shapes are the same but for what the references among their fields embed. -/
structure CollectionShape.Akin (s t : CollectionShape) : Prop where
  same : s.Matches t
  fields : List.Forall₂ FieldShape.Akin s.fields t.fields

/-- A field that is no reference is not resolved at all. -/
lemma resolveField_of_not_isReference {f : Field}
    (hf : (categoryOf f.key (some f.type)).isReference = false) (source : Option Source)
    (owner : String) (path : List String) (ds : List Directive) :
    resolveField source owner path ds f = pure (f.shape false none) := by
  cases hlast : directiveFor? f.key ds with
  | none => exact resolveField_of_none hlast
  | some d =>
      have hno : f.isEmbeddingOf d = false := by rw [Field.isEmbeddingOf, hf, Bool.false_and]
      rw [resolveField_of_some hlast]
      unfold resolveUnder
      rw [hno, if_neg Bool.false_ne_true]

/-- A field is resolved to fields that are akin, whatever the source and the path. -/
lemma akin_resolveField (source source' : Option Source) (owner owner' : String)
    (path path' : List String) (ds : List Directive) (f : Field) :
    (resolveField source owner path ds f).value.Akin
      (resolveField source' owner' path' ds f).value := by
  obtain ⟨embedded, shape, hvalue⟩ := exists_resolveField_eq source owner path ds f
  obtain ⟨embedded', shape', hvalue'⟩ := exists_resolveField_eq source' owner' path' ds f
  refine ⟨?_, fun hlink => ?_⟩
  · rw [hvalue, hvalue']
    exact matches_shape f _ _ _ _
  · rw [hvalue] at hlink
    rw [resolveField_of_not_isReference hlink, resolveField_of_not_isReference hlink]

/-- Resolving a collection changes nothing but what references embed. -/
theorem akin_resolve (source source' : Option Source) (path path' : List String) (c : Collection)
    (e : Entry) : (resolve source path c e).value.Akin (resolve source' path' c e).value := by
  refine ⟨matches_resolve source source' path path' rfl rfl e, ?_⟩
  rw [resolve_fields_eq, resolve_fields_eq, List.forall₂_map_left_iff, List.forall₂_map_right_iff,
    List.forall₂_same]
  exact fun f _ => akin_resolveField _ _ _ _ _ _ _ f

/-! ### What does not show references -/

/-- Among fields that are akin, a choice by category that takes no references takes the same. -/
lemma filter_eq_of_akin {p : FieldShape CollectionShape → Bool}
    (hcategory : ∀ f g, f.category = g.category → p f = p g)
    (hlink : ∀ f, p f = true → f.isReference = false)
    {fs gs : List (FieldShape CollectionShape)} (h : List.Forall₂ FieldShape.Akin fs gs) :
    fs.filter p = gs.filter p := by
  induction h with
  | nil => rfl
  | @cons f g fs gs hfg _ ih =>
      have hp : p f = p g := hcategory f g hfg.same.category
      rw [List.filter_cons, List.filter_cons, ← hp, ih]
      by_cases hf : p f = true
      · rw [if_pos hf, if_pos hf, hfg.eq_of_not_isReference (hlink f hf)]
      · rw [if_neg hf, if_neg hf]

namespace CollectionShape.Akin

variable {s t : CollectionShape}

/-- The fields of a card are the same. -/
lemma cardFields_eq (h : s.Akin t) : s.cardFields = t.cardFields := by
  refine filter_eq_of_akin (fun f g hfg => ?_) (fun f hf => ?_) h.fields
  · rw [FieldShape.isCard, FieldShape.isCard, hfg]
  · revert hf
    unfold FieldShape.isCard FieldShape.isReference
    cases f.category <;> decide

/-- The columns of a table are the same. -/
lemma tableFields_eq (h : s.Akin t) : s.tableFields = t.tableFields := by
  refine filter_eq_of_akin (fun f g hfg => ?_) (fun f hf => ?_) h.fields
  · rw [FieldShape.isTable, FieldShape.isTable, hfg]
  · rw [FieldShape.isTable, beq_iff_eq] at hf
    rw [FieldShape.isReference, hf]
    rfl

/-- The references have the same keys. -/
lemma map_key_referenceFields (h : s.Akin t) :
    s.referenceFields.map (·.key) = t.referenceFields.map (·.key) := by
  have hreferences : List.Forall₂ FieldShape.Akin s.referenceFields t.referenceFields := by
    refine List.rel_filter (fun f g hfg => ?_) h.fields
    change f.category.isReference = true ↔ g.category.isReference = true
    rw [hfg.same.category]
  exact map_key_congr (fun hfg => hfg.same.key) hreferences

lemma cardTags_eq (h : s.Akin t) : s.cardTags = t.cardTags := by
  rw [cardTags, cardTags, h.cardFields_eq]

lemma columnKeys_eq (h : s.Akin t) : s.columnKeys = t.columnKeys := by
  rw [columnKeys, columnKeys, h.tableFields_eq]

/-- Every contract but that of the page of an item is the same. -/
theorem contract_eq (h : s.Akin t) {w : Widget} (hw : w ≠ .item) :
    s.contract w = t.contract w := by
  have htags : s.widgetTags w = t.widgetTags w := by
    cases w with
    | item => exact absurd rfl hw
    | list =>
        rw [widgetTags, widgetTags, listTags, listTags, h.cardTags_eq,
          navigationTags_congr h.same.entry]
    | table => exact tableTags_congr h.columnKeys_eq
    | card => exact h.cardTags_eq
  rw [contract, contract, h.same.collectionId, h.same.label_eq, htags]

end CollectionShape.Akin

/-- **What references lead to shows on the pages of items only**: resolving one collection under one
entry over any two sources, or without a source, and on any two paths gives lists, tables and cards
with the same text, and the same keys of the fields on a card, of the columns of a table and of the
references. -/
theorem references_show_on_items_only (c : Collection) (e : Entry)
    (source source' : Option Source) (path path' : List String) :
    let s := (resolve source path c e).value
    let t := (resolve source' path' c e).value
    (∀ w, w ≠ .item → (s.contract w).descriptor.render = (t.contract w).descriptor.render) ∧
      s.cardFields.map (·.key) = t.cardFields.map (·.key) ∧
      s.tableFields.map (·.key) = t.tableFields.map (·.key) ∧
      s.referenceFields.map (·.key) = t.referenceFields.map (·.key) := by
  intro s t
  have hakin : s.Akin t := akin_resolve source source' path path' c e
  refine ⟨fun w hw => ?_, ?_, ?_, hakin.map_key_referenceFields⟩
  · rw [hakin.contract_eq hw]
  · rw [hakin.cardFields_eq]
  · rw [hakin.tableFields_eq]

/-! ### Posts with and without a store -/

namespace Sample

/-- The posts, resolved without a source. -/
def plainTree : CollectionShape :=
  ⟨"Posts", none, entry, [⟨"author", .reference, .string, none, true, none⟩]⟩

lemma resolve_plainTree : (resolve none [] posts entry).value = plainTree := by
  rw [resolve_value]
  rfl

end Sample

theorem references_show_on_items_only_sample :
    Widget.card ≠ .item ∧
      ((resolve (some Sample.source) [] Sample.posts Sample.entry).value.contract
          .card).descriptor.render =
        ((resolve none ["Authors"] Sample.posts Sample.entry).value.contract
          .card).descriptor.render ∧
      ((resolve (some Sample.source) [] Sample.posts Sample.entry).value.contract
          .item).descriptor.render ≠
        ((resolve none [] Sample.posts Sample.entry).value.contract .item).descriptor.render := by
  have hcard : Widget.card ≠ .item := by decide
  have hsame := references_show_on_items_only Sample.posts Sample.entry (some Sample.source) none []
    ["Authors"]
  refine ⟨hcard, hsame.1 .card hcard, ?_⟩
  rw [Sample.resolve_posts, Sample.resolve_plainTree]
  decide +kernel

end WidgetContracts
