/-
The fields of the system leave no trace in a contract.

* `FieldShape.PrintsLike`, `CollectionShape.PrintsLike`: fields, and shapes, of which a contract
  takes the same.
* `CollectionShape.PrintsLike.contract_eq`: such shapes have the same contracts.
* `Collection.SameContent`, `Source.SameContent`: collections, and sources, that differ in fields of
  the system only.
* `printsLike_of_sameContent`: over such sources, such collections are resolved to shapes of which a
  contract takes the same.
* `system_fields_leave_no_trace`: so that all their contracts have the same text.
-/
import WidgetContracts.Proofs.Contract.Depiction
import WidgetContracts.Proofs.Resolve.Degradation

namespace WidgetContracts

/-! ### What a contract takes from a shape -/

/-- A contract takes the same from two fields: their key, their category and their tag. -/
structure FieldShape.PrintsLike (f g : FieldShape CollectionShape) : Prop where
  key : f.key = g.key
  category : f.category = g.category
  tag : f.tag? = g.tag?

/-- A contract takes the same from two shapes that match: their fields of content print alike, one
by one. -/
structure CollectionShape.PrintsLike (s t : CollectionShape) : Prop where
  same : s.Matches t
  fields : List.Forall₂ FieldShape.PrintsLike s.contentFields t.contentFields

namespace FieldShape.PrintsLike

lemma refl (f : FieldShape CollectionShape) : f.PrintsLike f := ⟨rfl, rfl, rfl⟩

variable {f g : FieldShape CollectionShape}

lemma isCard_iff (h : f.PrintsLike g) : f.isCard = true ↔ g.isCard = true := by
  rw [isCard, isCard, h.category]

lemma isTable_iff (h : f.PrintsLike g) : f.isTable = true ↔ g.isTable = true := by
  rw [isTable, isTable, h.category]

end FieldShape.PrintsLike

lemma fieldTags_eq_of_printsLike {fs gs : List (FieldShape CollectionShape)}
    (h : List.Forall₂ FieldShape.PrintsLike fs gs) : fieldTags fs = fieldTags gs := by
  induction h with
  | nil => rfl
  | cons hf _ ih =>
      rw [fieldTags, fieldTags, List.filterMap_cons, List.filterMap_cons, hf.tag]
      cases FieldShape.tag? _ with
      | none => exact ih
      | some t => exact congrArg (t :: ·) ih

/-- Fields that have the same keys one by one have the same list of keys. -/
lemma map_key_congr {R : FieldShape CollectionShape → FieldShape CollectionShape → Prop}
    (hR : ∀ {f g}, R f g → f.key = g.key) {fs gs : List (FieldShape CollectionShape)}
    (h : List.Forall₂ R fs gs) : fs.map (·.key) = gs.map (·.key) := by
  induction h with
  | nil => rfl
  | cons hf _ ih => rw [List.map_cons, List.map_cons, hR hf, ih]

namespace CollectionShape

/-- The entry of a shape decides on its navigation. -/
lemma navigationTags_congr {s t : CollectionShape} (h : s.entry = t.entry) :
    s.navigationTags = t.navigationTags := by
  rw [navigationTags, navigationTags, hasCategory, hasCategory, h]

/-- The tags of a table depend on the keys of its columns only. -/
lemma tableTags_congr {s t : CollectionShape} (h : s.columnKeys = t.columnKeys) :
    s.tableTags = t.tableTags := by
  simp only [tableTags, columnsTag, cellsTag, withColumns, h]

namespace Matches

variable {s t : CollectionShape}

lemma label_eq (h : s.Matches t) : s.label = t.label := by
  rw [label, label, h.displayName, h.collectionId]

end Matches

/-- The fields of a card are among those of content. -/
lemma cardFields_eq (s : CollectionShape) :
    s.cardFields = s.contentFields.filter (·.isCard) := by
  rw [cardFields, contentFields, List.filter_filter]
  refine List.filter_congr fun f _ => ?_
  cases hcard : f.isCard with
  | false => rfl
  | true => rw [isContent_of_isCard hcard, Bool.and_true]

/-- The columns of a table are among the fields of content. -/
lemma tableFields_eq (s : CollectionShape) :
    s.tableFields = s.contentFields.filter (·.isTable) := by
  rw [tableFields, contentFields, List.filter_filter]
  refine List.filter_congr fun f _ => ?_
  unfold FieldShape.isTable FieldShape.isContent
  cases f.category <;> rfl

namespace PrintsLike

variable {s t : CollectionShape}

lemma tags_eq (h : s.PrintsLike t) : s.tags = t.tags := by
  rw [CollectionShape.tags_eq, CollectionShape.tags_eq, fieldTags_eq_of_printsLike h.fields]

lemma cardTags_eq (h : s.PrintsLike t) : s.cardTags = t.cardTags := by
  have hcards := List.rel_filter (fun _ _ hf => hf.isCard_iff) h.fields
  rw [← cardFields_eq, ← cardFields_eq] at hcards
  rw [cardTags, cardTags, fieldTags_eq_of_printsLike hcards]

lemma columnKeys_eq (h : s.PrintsLike t) : s.columnKeys = t.columnKeys := by
  have hcolumns := List.rel_filter (fun _ _ hf => hf.isTable_iff) h.fields
  rw [← tableFields_eq, ← tableFields_eq] at hcolumns
  rw [columnKeys, columnKeys, map_key_congr (fun hf => hf.key) hcolumns]

lemma widgetTags_eq (h : s.PrintsLike t) (w : Widget) : s.widgetTags w = t.widgetTags w := by
  cases w with
  | item =>
      rw [widgetTags, widgetTags, itemTags, itemTags, fieldTags_eq_of_printsLike h.fields,
        navigationTags_congr h.same.entry]
  | list =>
      rw [widgetTags, widgetTags, listTags, listTags, h.cardTags_eq,
        navigationTags_congr h.same.entry]
  | table => exact tableTags_congr h.columnKeys_eq
  | card => exact h.cardTags_eq

/-- Shapes that print alike have the same contracts. -/
theorem contract_eq (h : s.PrintsLike t) (w : Widget) : s.contract w = t.contract w := by
  rw [contract, contract, h.same.collectionId, h.same.label_eq, h.widgetTags_eq]

end PrintsLike

end CollectionShape

/-! ### Collections and sources with the same content -/

/-- The fields of a collection that do not belong to the system. -/
def Collection.content (c : Collection) : List Field := c.fields.filter fun f => !isSystemKey f.key

/-- Two collections differ in fields of the system only. -/
structure Collection.SameContent (c c' : Collection) : Prop where
  id : c.id = c'.id
  displayName : c.displayName = c'.displayName
  content : c.content = c'.content

/-- Two sources differ in fields of the system only: both give time or neither does, and under each
identifier both answer with collections of the same content, or neither answers. -/
structure Source.SameContent (s s' : Source) : Prop where
  time : s.hasNoTime = s'.hasNoTime
  answers : ∀ id, (∃ c c', s.Answers id c ∧ s'.Answers id c' ∧ c.SameContent c') ∨
    ∀ c, ¬s.Answers id c ∧ ¬s'.Answers id c

lemma Collection.SameContent.symm {c c' : Collection} (h : c.SameContent c') : c'.SameContent c :=
  ⟨h.id.symm, h.displayName.symm, h.content.symm⟩

namespace Source.SameContent

variable {s s' : Source}

lemma symm (h : s.SameContent s') : s'.SameContent s := by
  refine ⟨h.time.symm, fun id => ?_⟩
  rcases h.answers id with ⟨c, c', hc, hc', hsame⟩ | hnone
  · exact Or.inl ⟨c', c, hc', hc, hsame.symm⟩
  · exact Or.inr fun c => (hnone c).symm

/-- What is found over one source has its counterpart over the other. -/
lemma ask_found (h : s.SameContent s') {id : String} {c : Collection}
    (hc : (s.ask id).value = .found c) :
    ∃ c', (s'.ask id).value = .found c' ∧ c.SameContent c' := by
  have hans : s.Answers id c := answers_of_ask hc
  have htime : s'.hasNoTime = false := h.time ▸ hasNoTime_eq_false_of_ask hc
  rcases h.answers id with ⟨d, c', hd, hc', hsame⟩ | hnone
  · obtain rfl := hd.unique hans
    exact ⟨c', ask_of_answers htime hc', hsame⟩
  · exact absurd hans (hnone c).1

lemma resolves (h : s.SameContent s') {path : List String} {ds : List Directive} {f : Field}
    {d : Directive} {t : String} {r : Collection} (hr : s.Resolves path ds f d t r) :
    ∃ r', s'.Resolves path ds f d t r' ∧ r.SameContent r' := by
  obtain ⟨r', hfound, hsame⟩ := h.ask_found hr.found
  exact ⟨r', ⟨hr.requested, hr.leads, hfound⟩, hsame⟩

end Source.SameContent

/-! ### Resolving collections with the same content -/

/-- A resolved field holds content unless it belongs to the system. -/
lemma isContent_shape (f : Field) (embedded : Bool) (shape : Option CollectionShape) :
    (f.shape embedded shape).isContent = !isSystemKey f.key := by
  have hnever : ∀ t : FieldType, t.category ≠ .system := by
    intro t
    cases t <;> decide
  change (categoryOf f.key (some f.type) != .system) = _
  rw [categoryOf]
  cases isSystemKey f.key with
  | true => rfl
  | false =>
      rw [if_neg Bool.false_ne_true, Option.bind_some]
      cases FieldType.ofText? f.type with
      | none => rfl
      | some t => exact bne_iff_ne.mpr (hnever t)

/-- The fields of content of a resolved collection are those of the collection, resolved. -/
lemma contentFields_resolve (source : Option Source) (path : List String) (c : Collection)
    (e : Entry) :
    (resolve source path c e).value.contentFields =
      c.content.map fun f => (fieldTrace source path c e f).value := by
  rw [CollectionShape.contentFields, resolve_fields_eq, List.filter_map, Collection.content]
  refine congrArg (List.map _) (List.filter_congr fun f _ => ?_)
  obtain ⟨embedded, shape, hvalue⟩ := exists_resolveField_eq source (orElse c.id e.collectionId)
    (orElse c.id e.collectionId :: path) e.references f
  rw [Function.comp_apply, fieldTrace, hvalue, isContent_shape]

/-- The tag of a resolved field depends on what it embeds only through the tags inside. -/
lemma tagWith?_shape (f : Field) (embedded : Bool) (shape shape' : Option CollectionShape)
    (tags : List Tag) :
    (f.shape embedded shape).tagWith? tags = (f.shape embedded shape').tagWith? tags := rfl

section

variable {source source' : Option Source} {s s' : Source}

/-- Resolved collections of the same content print alike, if their fields do. -/
lemma printsLike_of_fields {path : List String} {c c' : Collection} {e : Entry}
    (hc : c.SameContent c') (h : ∀ owner path f,
      (resolveField source owner path e.references f).value.PrintsLike
        (resolveField source' owner path e.references f).value) :
    (resolve source path c e).value.PrintsLike (resolve source' path c' e).value := by
  have hfields : List.Forall₂ FieldShape.PrintsLike (resolve source path c e).value.contentFields
      (resolve source' path c' e).value.contentFields := by
    rw [contentFields_resolve, contentFields_resolve, hc.content, List.forall₂_map_left_iff,
      List.forall₂_map_right_iff, List.forall₂_same]
    intro f _
    rw [fieldTrace, fieldTrace, hc.id]
    exact h _ _ f
  exact ⟨matches_resolve source source' path path hc.id hc.displayName e, hfields⟩

/-- The step: a field is resolved to fields that print alike, if the collections embedded in it are.
-/
lemma printsLike_resolveField (hs : s.SameContent s') {ds : List Directive}
    (ih : ∀ d ∈ ds, ∀ (id : String) (path : List String) (c c' : Collection), c.SameContent c' →
      (resolve (some s) path c (nestedEntry id d)).value.PrintsLike
        (resolve (some s') path c' (nestedEntry id d)).value)
    (owner : String) (path : List String) (f : Field) :
    (resolveField (some s) owner path ds f).value.PrintsLike
      (resolveField (some s') owner path ds f).value := by
  by_cases hres : ∃ d t r, s.Resolves path ds f d t r
  · obtain ⟨d, t, r, hr⟩ := hres
    obtain ⟨r', hr', hsame⟩ := hs.resolves hr
    have hsub := ih d hr.requested.mem (orElse r.id t) path r r' hsame
    rw [resolveField_of_resolves hr, resolveField_of_resolves hr', ← hsame.id]
    refine ⟨rfl, rfl, ?_⟩
    rw [FieldShape.tag?_eq, FieldShape.tag?_eq, shape_of_field, shape_of_field, embeddedTags,
      embeddedTags, hsub.tags_eq]
    exact tagWith?_shape f true _ _ _
  · have hres' : ¬∃ d t r, s'.Resolves path ds f d t r := by
      rintro ⟨d, t, r', hr'⟩
      obtain ⟨r, hr, -⟩ := hs.symm.resolves hr'
      exact hres ⟨d, t, r, hr⟩
    rw [resolveField_of_not_resolves hres, resolveField_of_not_resolves hres']
    exact .refl _

/-- Collections of the same content are resolved to shapes that print alike, by induction on the
directives. -/
theorem printsLike_of_sameContent (hs : s.SameContent s') (e : Entry) :
    ∀ (path : List String) (c c' : Collection), c.SameContent c' →
      (resolve (some s) path c e).value.PrintsLike (resolve (some s') path c' e).value := by
  induction e using Entry.ind with
  | _ e ih =>
      intro path c c' hc
      exact printsLike_of_fields hc (printsLike_resolveField hs ih)

/-- Without a source, too, collections of the same content are resolved to shapes that print alike.
-/
lemma printsLike_of_none (path : List String) {c c' : Collection} (hc : c.SameContent c')
    (e : Entry) : (resolve none path c e).value.PrintsLike (resolve none path c' e).value :=
  printsLike_of_fields hc fun _ _ _ => .refl _

end

/-- **The fields of the system leave no trace in a contract**: collections that differ in such
fields only, over sources whose answers differ in such fields only, give the same text for every
widget. -/
theorem system_fields_leave_no_trace {source source' : Option Source}
    (hsource : Option.Rel Source.SameContent source source') {c c' : Collection}
    (hc : c.SameContent c') (path : List String) (e : Entry) (w : Widget) :
    ((resolve source path c e).value.contract w).descriptor.render =
      ((resolve source' path c' e).value.contract w).descriptor.render := by
  have hprints : (resolve source path c e).value.PrintsLike (resolve source' path c' e).value := by
    cases hsource with
    | none => exact printsLike_of_none path hc e
    | some hs => exact printsLike_of_sameContent hs e path c c' hc
  rw [hprints.contract_eq w]

/-! ### Posts and authors with fields of the system -/

namespace Sample

/-- The posts with an identity, and with an owner that refers to an author. -/
def ownedPosts : Collection :=
  { posts with fields :=
      ⟨"_id", some "Number", "NUMBER", true, none⟩ :: posts.fields ++
        [⟨"_owner", none, "REFERENCE", false, some "Authors"⟩] }

/-- The authors with a picture that belongs to the system. -/
def picturedAuthors : Collection :=
  { authors with fields := ⟨"_picture", none, "IMAGE", false, none⟩ :: authors.fields }

/-- The store of posts and authors with fields of the system. -/
def owned : Source :=
  { source with store := fun id =>
      if id = "Posts" then .document ownedPosts.toValue
      else if id = "Authors" then .document picturedAuthors.toValue
      else .missing }

/-- An entry that asks to embed the owner, too. -/
def ownedEntry : Entry :=
  { entry with references := ⟨"_owner", .embed, [backward]⟩ :: entry.references }

lemma sameContent_posts : posts.SameContent ownedPosts := ⟨rfl, rfl, by decide⟩

lemma sameContent_authors : authors.SameContent picturedAuthors := ⟨rfl, rfl, by decide⟩

lemma sameContent_owned : source.SameContent owned := by
  refine ⟨rfl, fun id => ?_⟩
  by_cases hposts : id = "Posts"
  · subst hposts
    exact Or.inl ⟨posts, ownedPosts, answers_posts, rfl, sameContent_posts⟩
  by_cases hauthors : id = "Authors"
  · subst hauthors
    exact Or.inl ⟨authors, picturedAuthors, answers_authors, rfl, sameContent_authors⟩
  refine Or.inr fun c => ?_
  have hstore : source.store id = .missing := by
    change store id = .missing
    rw [store, if_neg hposts, if_neg hauthors]
  have howned : owned.store id = .missing := by
    change (if id = "Posts" then _ else _ : Outcome) = .missing
    rw [if_neg hposts, if_neg hauthors]
  have hunknown : Answer.unknown ≠ .found c := by
    intro h
    cases h
  rw [Source.Answers, Source.Answers, hstore, howned]
  exact ⟨hunknown, hunknown⟩

end Sample

theorem system_fields_leave_no_trace_sample :
    Option.Rel Source.SameContent (some Sample.source) (some Sample.owned) ∧
      Sample.posts.SameContent Sample.ownedPosts ∧ Sample.posts ≠ Sample.ownedPosts ∧
      ((resolve (some Sample.source) [] Sample.posts Sample.ownedEntry).value.contract
          .item).descriptor.render =
        ((resolve (some Sample.owned) [] Sample.ownedPosts Sample.ownedEntry).value.contract
          .item).descriptor.render := by
  have hsource : Option.Rel Source.SameContent (some Sample.source) (some Sample.owned) :=
    .some Sample.sameContent_owned
  exact ⟨hsource, Sample.sameContent_posts, by decide,
    system_fields_leave_no_trace hsource Sample.sameContent_posts [] Sample.ownedEntry .item⟩

end WidgetContracts
