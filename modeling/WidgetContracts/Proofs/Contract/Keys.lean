/-
Keys that occur once in a contract.

* `CollectionShape.shownFields`, `CollectionShape.ownKeys`: the fields that have tags in the
  contract of a widget, and the keys of the tags that stand beside them.
* `CollectionShape.unambiguous_widgetTags_iff`: the tags of a contract are unambiguous exactly when
  no shown field has a key of its own tags.
* `Collection.DistinctKeys`: the fields of a collection have distinct keys.
* `keyed_of_within_resolve`: over answers with distinct keys, every shape of a resolved tree has
  distinct keys.
* `contract_keys_distinct_iff`: so that only such a field can make a resolved contract ambiguous.
* `contract_keys_clash`: and it does.
-/
import WidgetContracts.Entry.Check
import WidgetContracts.Proofs.Contract.Content
import WidgetContracts.Proofs.Tag.Keys

namespace WidgetContracts

open Tag (Unambiguous)

/-! ### Tags of fields among tags of the widget -/

namespace CollectionShape

/-- The fields that have tags in the contract of a widget. -/
def shownFields (s : CollectionShape) : Widget → List (FieldShape CollectionShape)
  | .item => s.contentFields
  | .list | .card => s.cardFields
  | .table => []

/-- The keys of the tags that stand beside those of the fields in the contract of a widget. -/
def ownKeys (s : CollectionShape) : Widget → List String
  | .item =>
    [identityKey, "itemLink"] ++ (if s.hasCategory then ["category"] else []) ++ ["breadcrumbs"]
  | .list | .card => [identityKey, "url", "itemLink"]
  | .table => []

variable {s : CollectionShape}

lemma map_key_navigationTags (s : CollectionShape) : s.navigationTags.map Tag.key =
    (if s.hasCategory then ["category"] else []) ++ ["breadcrumbs"] := by
  rw [navigationTags]
  cases s.hasCategory <;> rfl

lemma unambiguous_children_of_mem_navigationTags :
    ∀ t ∈ s.navigationTags, Unambiguous t.children := by
  have hcategory : Unambiguous Tag.category.children :=
    Tag.unambiguous_of_leaves (by decide) (by decide)
  have hbreadcrumbs : Unambiguous Tag.breadcrumbs.children :=
    Tag.unambiguous_of_leaves (by decide) (by decide)
  rw [navigationTags, List.forall_mem_append, List.forall_mem_singleton]
  refine ⟨?_, hbreadcrumbs⟩
  cases s.hasCategory with
  | false => exact List.forall_mem_nil _
  | true => exact List.forall_mem_singleton.mpr hcategory

/-- Tags of fields between tags with distinct keys are unambiguous exactly when no field has one of
these keys. -/
lemma unambiguous_around_iff {front back : List Tag} {fs : List (FieldShape CollectionShape)}
    (hfront : ∀ t ∈ front, Unambiguous t.children) (hback : ∀ t ∈ back, Unambiguous t.children)
    (hown : ((front ++ back).map Tag.key).Nodup) (hfields : ∀ f ∈ fs, f.Tagged)
    (hkeys : (fs.map (·.key)).Nodup) :
    Unambiguous (front ++ fieldTags fs ++ back) ↔
      ∀ f ∈ fs, f.key ∉ (front ++ back).map Tag.key := by
  have hinside : ∀ t ∈ front ++ fieldTags fs ++ back, Unambiguous t.children := by
    rw [List.forall_mem_append, List.forall_mem_append]
    exact ⟨⟨hfront, unambiguous_children_of_mem_fieldTags hfields⟩, hback⟩
  have hperm : (front ++ fieldTags fs ++ back).Perm (fieldTags fs ++ (front ++ back)) := by
    rw [← List.append_assoc]
    exact List.perm_append_comm.append_right back
  rw [Tag.unambiguous_iff, and_iff_left hinside, (hperm.map Tag.key).nodup_iff, List.map_append,
    map_key_fieldTags hfields, List.nodup_append]
  constructor
  · rintro ⟨-, -, hne⟩ f hf hmem
    exact hne _ (List.mem_map_of_mem hf) _ hmem rfl
  · intro h
    refine ⟨hkeys, hown, List.forall_mem_map.mpr fun f hf k hk hkey => h f hf ?_⟩
    rw [hkey]
    exact hk

/-! ### The tags of a contract -/

section

variable (h : ∀ t : CollectionShape, t.Within s → t.Keyed)

include h

lemma tagged_contentFields : ∀ f ∈ s.contentFields, f.Tagged := by
  obtain ⟨-, hinside⟩ := forall_within_iff.mp h
  exact tagged_of_mem_contentFields fun f hf t ht => unambiguous_tags (hinside f hf t ht)

lemma tagged_cardFields : ∀ f ∈ s.cardFields, f.Tagged := by
  rw [cardFields_eq]
  exact fun f hf => tagged_contentFields h f (List.mem_of_mem_filter hf)

/-- The tags that a widget shows of a field are tagged. -/
lemma tagged_shownFields (w : Widget) : ∀ f ∈ s.shownFields w, f.Tagged := by
  cases w with
  | item => exact tagged_contentFields h
  | list | card => exact tagged_cardFields h
  | table => exact List.forall_mem_nil _

lemma unambiguous_itemTags_iff :
    Unambiguous s.itemTags ↔ ∀ f ∈ s.contentFields, f.key ∉ s.ownKeys .item := by
  have hself : s.Keyed := h s .refl
  have hown : ([Tag.itemId, .interactive "itemLink" anchor (some "Link to item")] ++
      s.navigationTags).map Tag.key = s.ownKeys .item := by
    rw [List.map_append, map_key_navigationTags, ownKeys, List.append_assoc]
    rfl
  rw [itemTags, unambiguous_around_iff ?_ unambiguous_children_of_mem_navigationTags ?_
    (tagged_contentFields h) (hself.nodup_filter _), hown]
  · simp only [List.forall_mem_cons]
    exact ⟨Tag.unambiguous_nil, Tag.unambiguous_nil, List.forall_mem_nil _⟩
  · rw [hown, ownKeys]
    cases s.hasCategory <;> decide

lemma unambiguous_cardTags_iff :
    Unambiguous s.cardTags ↔ ∀ f ∈ s.cardFields, f.key ∉ s.ownKeys .card := by
  have hself : s.Keyed := h s .refl
  have hfront : ∀ t ∈ ([Tag.stringData identityKey,
      .data "url" "string" (some "Full URL to item page"), .interactive "itemLink" anchor none] :
        List Tag), Unambiguous t.children := by
    simp only [List.forall_mem_cons]
    exact ⟨Tag.unambiguous_nil, Tag.unambiguous_nil, Tag.unambiguous_nil, List.forall_mem_nil _⟩
  have haround := unambiguous_around_iff hfront (List.forall_mem_nil _) (by decide)
    (tagged_cardFields h) (hself.nodup_filter _)
  rw [List.append_nil, List.append_nil] at haround
  exact haround

end

/-- A list is ambiguous only in the tags of its items, which are those of a card. -/
lemma unambiguous_listTags_iff : Unambiguous s.listTags ↔ Unambiguous s.cardTags := by
  have hkeys : (s.listTags.map Tag.key).Nodup := by
    rw [listTags, List.map_append, map_key_navigationTags]
    change (["items", "totalCount", "hasMore", "isLoading", "loadMoreButton"] ++ _).Nodup
    cases s.hasCategory <;> decide
  rw [Tag.unambiguous_iff, and_iff_right hkeys, listTags, List.forall_mem_append,
    and_iff_left unambiguous_children_of_mem_navigationTags]
  simp only [List.forall_mem_cons]
  constructor
  · rintro ⟨hitems, -⟩
    exact hitems
  · intro hcards
    exact ⟨hcards, Tag.unambiguous_nil, Tag.unambiguous_nil, Tag.unambiguous_nil,
      Tag.unambiguous_nil, List.forall_mem_nil _⟩

/-- A table shows no tags of fields, and is never ambiguous. -/
lemma unambiguous_tableTags (s : CollectionShape) : Unambiguous s.tableTags := by
  have hnil : Unambiguous [] := Tag.unambiguous_nil
  have hcolumns : Unambiguous s.columnsTag.children :=
    Tag.unambiguous_group (by decide) (by decide)
  have hcells : Unambiguous s.cellsTag.children := Tag.unambiguous_group (by decide) (by decide)
  have hrows : Unambiguous [Tag.stringData identityKey, Tag.stringData "url",
      .interactive "rowLink" anchor none, s.cellsTag] := by
    rw [Tag.unambiguous_iff]
    simp only [List.forall_mem_cons]
    refine ⟨?_, hnil, hnil, hnil, hcells, List.forall_mem_nil _⟩
    change [identityKey, "url", "rowLink", "cells"].Nodup
    decide
  rw [Tag.unambiguous_iff, tableTags]
  simp only [List.forall_mem_cons]
  refine ⟨?_, hcolumns, hrows, hnil, hnil, hnil, hnil, hnil, hnil, hnil, hnil,
    List.forall_mem_nil _⟩
  change ["columns", "rows", "totalCount", "currentPage", "pageSize", "totalPages", "prevButton",
    "nextButton", "hasPrev", "hasNext"].Nodup
  decide

/-- **Only a field with a key of the widget's own tags makes a contract ambiguous.** -/
theorem unambiguous_widgetTags_iff (h : ∀ t : CollectionShape, t.Within s → t.Keyed) (w : Widget) :
    Unambiguous (s.widgetTags w) ↔ ∀ f ∈ s.shownFields w, f.key ∉ s.ownKeys w := by
  cases w with
  | item => exact unambiguous_itemTags_iff h
  | list => exact unambiguous_listTags_iff.trans (unambiguous_cardTags_iff h)
  | table => exact iff_of_true s.unambiguous_tableTags (List.forall_mem_nil _)
  | card => exact unambiguous_cardTags_iff h

end CollectionShape

/-! ### Resolved collections -/

/-- The fields of a collection have distinct keys. -/
def Collection.DistinctKeys (c : Collection) : Prop := (c.fields.map (·.key)).Nodup

/-- The fields of a collection with distinct keys keep them when they are resolved. -/
lemma keyed_resolve {source : Option Source} {path : List String} {c : Collection} {e : Entry}
    (hc : c.DistinctKeys) : (resolve source path c e).value.Keyed := by
  have hfields : ∀ f, ∃ embedded shape, (fieldTrace source path c e f).value =
      f.shape embedded shape :=
    exists_resolveField_eq source _ _ e.references
  constructor
  · rw [resolve_fields_eq, List.map_map]
    refine (List.map_congr_left fun f _ => ?_) ▸ hc
    obtain ⟨embedded, shape, hf⟩ := hfields f
    rw [Function.comp_apply, hf]
    rfl
  · rw [resolve_fields_eq, List.forall_mem_map]
    intro f _ hcontent
    obtain ⟨embedded, shape, hf⟩ := hfields f
    rw [hf, isContent_shape, Bool.not_eq_true'] at hcontent
    rw [hf]
    exact hcontent

/-- Over answers with distinct keys every shape of a resolved tree has distinct keys, by induction
on the directives. -/
lemma keyed_of_within_resolve {s : Source} (hs : ∀ id c, s.Answers id c → c.DistinctKeys)
    (e : Entry) : ∀ (path : List String) (c : Collection), c.DistinctKeys →
      ∀ t : CollectionShape, t.Within (resolve (some s) path c e).value → t.Keyed := by
  induction e using Entry.ind with
  | _ e ih =>
      intro path c hc
      refine CollectionShape.forall_within_iff.mpr ⟨keyed_resolve hc, ?_⟩
      rw [resolve_fields_eq, List.forall_mem_map]
      intro f _ t ht
      -- what is embedded is an answer that was resolved with one of the directives
      obtain ⟨d, u, r, hr, rfl⟩ := exists_resolves_of_shape ht
      exact ih d hr.requested.mem _ _ r (hs u r (Source.answers_of_ask hr.found))

/-- Without a source nothing is embedded, and the collection alone must have distinct keys. -/
lemma keyed_of_within_resolve_none {path : List String} {c : Collection} {e : Entry}
    (hc : c.DistinctKeys) :
    ∀ t : CollectionShape, t.Within (resolve none path c e).value → t.Keyed := by
  refine CollectionShape.forall_within_iff.mpr ⟨keyed_resolve hc, ?_⟩
  rw [resolve_fields_eq, List.forall_mem_map]
  intro f _ t ht
  obtain ⟨embedded, hnone⟩ := exists_resolveField_none e.references f
  rw [fieldTrace, hnone] at ht
  cases ht

/-- **Keys are distinct in a contract but for those of its own tags**: over answers with distinct
keys, and for a collection with distinct keys, no two tags of a contract that stand in one list, at
any depth, share a key, unless a field that the widget shows has a key of the widget's own tags; and
inside the tags of fields keys are distinct even then. -/
theorem contract_keys_distinct_iff {source : Option Source}
    (hsource : ∀ s ∈ source, ∀ id c, s.Answers id c → c.DistinctKeys) {c : Collection}
    (hc : c.DistinctKeys) (path : List String) (e : Entry) (w : Widget) :
    (Unambiguous ((resolve source path c e).value.contract w).tags ↔
      ∀ f ∈ (resolve source path c e).value.shownFields w,
        f.key ∉ (resolve source path c e).value.ownKeys w) ∧
    ∀ f ∈ (resolve source path c e).value.shownFields w, ∀ t, f.tag? = some t →
      t.key = f.key ∧ Unambiguous t.children := by
  have hkeyed : ∀ t : CollectionShape, t.Within (resolve source path c e).value → t.Keyed := by
    cases source with
    | none => exact keyed_of_within_resolve_none hc
    | some s => exact keyed_of_within_resolve (hsource s rfl) e path c hc
  refine ⟨CollectionShape.unambiguous_widgetTags_iff hkeyed w, fun f hf t ht => ?_⟩
  obtain ⟨u, hu, hkey, hchildren⟩ := CollectionShape.tagged_shownFields hkeyed w f hf
  obtain rfl := Option.some.inj (hu.symm.trans ht)
  exact ⟨hkey, hchildren⟩

/-! ### Pages with a field for their address -/

namespace Sample

lemma distinctKeys_of_answers {id : String} {c : Collection} (h : source.Answers id c) :
    c.DistinctKeys := by
  rcases eq_of_answers h with ⟨-, rfl⟩ | ⟨-, rfl⟩ <;> exact List.pairwise_singleton _ _

/-- Pages with a title and an address. -/
def pages : Collection :=
  ⟨"Pages", none, [⟨"title", none, "TEXT", false, none⟩, ⟨"url", none, "URL", false, none⟩]⟩

/-- An entry that asks for cards of the pages. -/
def pagesEntry : Entry :=
  ⟨"Pages", "/pages", "slug", [], none, some { Components.none with cardWidget := true }⟩

/-- The resolved pages. -/
def pagesShape : CollectionShape :=
  ⟨"Pages", none, pagesEntry, [⟨"title", .simple, .string, none, false, none⟩,
    ⟨"url", .simple, .string, none, false, none⟩]⟩

lemma distinctKeys_pages : pages.DistinctKeys := by
  change ["title", "url"].Nodup
  decide

lemma resolve_pages : (resolve (some source) [] pages pagesEntry).value = pagesShape := by
  rw [resolve_value]
  rfl

end Sample

theorem contract_keys_distinct_iff_sample :
    (∀ s ∈ some Sample.source, ∀ id c, s.Answers id c → c.DistinctKeys) ∧
      Sample.pages.DistinctKeys ∧
      Unambiguous ((resolve (some Sample.source) [] Sample.pages Sample.pagesEntry).value.contract
        .item).tags := by
  have hsource : ∀ s ∈ some Sample.source, ∀ id c, s.Answers id c → c.DistinctKeys := by
    intro s hs id c hc
    obtain rfl := Option.some.inj hs
    exact Sample.distinctKeys_of_answers hc
  have hiff := (contract_keys_distinct_iff hsource Sample.distinctKeys_pages []
    Sample.pagesEntry .item).1
  refine ⟨hsource, Sample.distinctKeys_pages, hiff.mpr ?_⟩
  rw [Sample.resolve_pages]
  change ∀ f ∈ Sample.pagesShape.fields, _
  simp only [Sample.pagesShape, List.forall_mem_cons]
  exact ⟨by decide, by decide, List.forall_mem_nil _⟩

/-- **A key of the widget's own tags clashes**: the address of a page stands twice on its card,
though all keys are distinct and the entry has no faults. -/
theorem contract_keys_clash :
    (∀ id c, Sample.source.Answers id c → c.DistinctKeys) ∧ Sample.pages.DistinctKeys ∧
      (∀ f ∈ Sample.pages.fields, f.key ≠ "") ∧ Sample.pagesEntry.faults = [] ∧
      ¬Unambiguous ((resolve (some Sample.source) [] Sample.pages Sample.pagesEntry).value.contract
        .card).tags := by
  refine ⟨fun _ _ => Sample.distinctKeys_of_answers, Sample.distinctKeys_pages, ?_, rfl, ?_⟩
  · simp only [Sample.pages, List.forall_mem_cons]
    exact ⟨by decide, by decide, List.forall_mem_nil _⟩
  · intro h
    have hkeys := h _ (.top _)
    rw [Sample.resolve_pages] at hkeys
    change ["_id", "url", "itemLink", "title", "url"].Nodup at hkeys
    exact absurd hkeys (by decide)

end WidgetContracts
