/-
The text of a contract at different indentations.

* `FieldShape.OneLine`, `CollectionShape.OneLine`: keys and names that hold no line feeds.
* `unbroken_tag?`, `unbroken_tags`, `unbroken_cardTags`: the tags of such fields and shapes are
  unbroken, and so is the list page.
* `tag?_of_embedded`: the tag of an embedded reference.
* `CollectionShape.Shown`: the fields that the page of an item shows at some depth;
  `Shown.inside`: their tags stand as deep inside those of the page.
* `rendering_is_uniform`: a further indentation shifts all texts of tags; a list holds the lines of
  a card, and an embedded reference the lines of the embedded collection, shifted.
-/
import WidgetContracts.Proofs.Contract.Captions
import WidgetContracts.Proofs.Tag.Indentation

namespace WidgetContracts

/-! ### Keys and names without line feeds -/

/-- The key and the name of a field hold no line feeds. -/
structure FieldShape.OneLine {σ : Type} (f : FieldShape σ) : Prop where
  key : Avoids f.key ['\n']
  displayName : ∀ x ∈ f.displayName, Avoids x ['\n']

instance {σ : Type} (f : FieldShape σ) : Decidable f.OneLine :=
  decidable_of_iff (Avoids f.key ['\n'] ∧ ∀ x ∈ f.displayName, Avoids x ['\n'])
    ⟨fun ⟨key, displayName⟩ => ⟨key, displayName⟩, fun h => ⟨h.key, h.displayName⟩⟩

/-- The keys and names of all fields, at every depth, hold no line feeds. -/
def CollectionShape.OneLine (s : CollectionShape) : Prop :=
  ∀ t : CollectionShape, t.Within s → ∀ f ∈ t.fields, f.OneLine

lemma CollectionShape.oneLine_iff {s : CollectionShape} :
    s.OneLine ↔ (∀ f ∈ s.fields, f.OneLine) ∧
      ∀ f ∈ s.fields, ∀ t, f.shape = some t → t.OneLine :=
  forall_within_iff

namespace FieldShape

lemma OneLine.avoids_describe {σ : Type} {f : FieldShape σ} (h : f.OneLine) :
    Avoids (Tag.describe f.key f.displayName) ['\n'] := by
  rw [Tag.describe]
  cases hd : given f.displayName with
  | none => exact h.key
  | some x => exact h.displayName x (Tag.mem_of_mem_given hd)

/-- The tag of a field is unbroken if its key, its name and the tags inside it are. -/
lemma OneLine.unbroken_tagWith? {σ : Type} {f : FieldShape σ} (h : f.OneLine) {ts : List Tag}
    (hts : ∀ t ∈ ts, t.Unbroken) {t : Tag} (ht : f.tagWith? ts = some t) : t.Unbroken := by
  have hgroup : ∀ (r : Bool) (b : Option String) (inside : List Tag),
      (∀ x ∈ b, Avoids x ['\n']) → (∀ u ∈ inside, u.Unbroken) →
        (Tag.group f.key (Tag.describe f.key f.displayName) r b inside).Unbroken := by
    intro r b inside hb hinside
    exact Tag.unbroken_group h.key h.avoids_describe hb hinside
  -- the tags of fixed shape inside a group are legible, which can be computed
  have hfixed : ∀ inside : List Tag, (∀ u ∈ inside, u.Legible) →
      (Tag.group f.key (Tag.describe f.key f.displayName) false none inside).Unbroken :=
    fun inside hinside => hgroup _ _ _ (by decide) fun u hu => (hinside u hu).unbroken
  have hreference : (if f.embedded then f.embeddedGroup ts else f.linkTag).Unbroken := by
    split
    · refine hgroup _ _ _ ?_ hts
      split <;> decide
    · refine Tag.unbroken_data h.key (by decide) ?_
      split <;> decide
  rw [tagWith?] at ht
  cases hc : f.category with
  | system =>
      rw [hc] at ht
      obtain ⟨-, htag⟩ := Option.ite_none_right_eq_some.mp ht
      obtain rfl := Option.some.inj htag
      exact Tag.Legible.unbroken (by decide)
  | image | media | address =>
      rw [hc] at ht
      obtain rfl := Option.some.inj ht
      exact hfixed _ (by decide)
  | reference | multiReference =>
      rw [hc] at ht
      obtain rfl := Option.some.inj ht
      exact hreference
  | richContent =>
      rw [hc] at ht
      obtain rfl := Option.some.inj ht
      exact Tag.unbroken_data h.key (by decide) h.displayName
  | simple =>
      rw [hc] at ht
      obtain rfl := Option.some.inj ht
      refine Tag.unbroken_data h.key ?_ h.displayName
      cases f.valueType <;> decide

end FieldShape

/-! ### The tags of such shapes -/

/-- The tag of a field is unbroken if its own key and name and the tags embedded in it are. -/
lemma unbroken_tag?_of_shape {f : FieldShape CollectionShape} (hf : f.OneLine)
    (hshape : ∀ s, f.shape = some s → ∀ t ∈ s.tags, t.Unbroken) {t : Tag} (ht : f.tag? = some t) :
    t.Unbroken := by
  rw [FieldShape.tag?_eq] at ht
  refine hf.unbroken_tagWith? ?_ ht
  cases hs : f.shape with
  | none =>
      have hlegible : ∀ u ∈ Tag.unknownShape, u.Legible := by decide
      exact fun u hu => (hlegible u hu).unbroken
  | some s => exact hshape s hs

namespace CollectionShape

variable {s : CollectionShape}

/-- The tags of a shape are unbroken if the keys and names in it are. -/
lemma OneLine.unbroken_tags (h : s.OneLine) : ∀ t ∈ s.tags, t.Unbroken := by
  induction s using ind with
  | h s ih =>
      obtain ⟨hself, hinside⟩ := oneLine_iff.mp h
      rw [tags_eq, List.forall_mem_cons]
      refine ⟨Tag.Legible.unbroken (by decide), fun t ht => ?_⟩
      obtain ⟨f, hf, htag⟩ := List.mem_filterMap.mp ht
      have hmem : f ∈ s.fields := List.mem_of_mem_filter hf
      exact unbroken_tag?_of_shape (hself f hmem)
        (fun u hu => ih f hmem u hu (hinside f hmem u hu)) htag

end CollectionShape

/-- The tag of a field is unbroken if the keys and names in it, at every depth, are. -/
lemma unbroken_tag? {f : FieldShape CollectionShape} (hf : f.OneLine)
    (hshape : ∀ s, f.shape = some s → s.OneLine) {t : Tag} (ht : f.tag? = some t) : t.Unbroken :=
  unbroken_tag?_of_shape hf (fun s hs => (hshape s hs).unbroken_tags) ht

namespace CollectionShape

variable {s : CollectionShape}

/-- The tags of some fields of a shape are unbroken. -/
lemma OneLine.unbroken_fieldTags (h : s.OneLine) {fs : List (FieldShape CollectionShape)}
    (hfs : fs ⊆ s.fields) : ∀ t ∈ fieldTags fs, t.Unbroken := by
  obtain ⟨hself, hinside⟩ := oneLine_iff.mp h
  intro t ht
  obtain ⟨f, hf, htag⟩ := List.mem_filterMap.mp ht
  exact unbroken_tag? (hself f (hfs hf)) (hinside f (hfs hf)) htag

lemma OneLine.unbroken_cardTags (h : s.OneLine) : ∀ t ∈ s.cardTags, t.Unbroken := by
  have hfixed : ∀ t ∈ [Tag.stringData identityKey,
      .data "url" "string" (some "Full URL to item page"), .interactive "itemLink" anchor none],
      t.Legible := by decide
  rw [cardTags, List.forall_mem_append]
  exact ⟨fun t ht => (hfixed t ht).unbroken,
    h.unbroken_fieldTags (List.filter_subset_self _)⟩

lemma unbroken_navigationTags : ∀ t ∈ s.navigationTags, t.Unbroken :=
  fun t ht => (legible_of_mem_navigationTags t ht).unbroken

lemma OneLine.unbroken_itemTags (h : s.OneLine) : ∀ t ∈ s.itemTags, t.Unbroken := by
  have hfixed : ∀ t ∈ [Tag.itemId, .interactive "itemLink" anchor (some "Link to item")],
      t.Legible := by decide
  rw [itemTags, List.forall_mem_append, List.forall_mem_append]
  exact ⟨⟨fun t ht => (hfixed t ht).unbroken, h.unbroken_fieldTags (List.filter_subset_self _)⟩,
    unbroken_navigationTags⟩

/-! ### Lists -/

/-- The tags of a list page after its items. -/
def tagsAfterItems (s : CollectionShape) : List Tag :=
  [.data "totalCount" "number" (some "Total items in collection"),
    .variant "hasMore" "boolean" fastPhase (some "More items available"),
    .variant "isLoading" "boolean" fastPhase (some "Loading state"),
    .interactive "loadMoreButton" button (some "Load more trigger")] ++ s.navigationTags

lemma listTags_eq (s : CollectionShape) :
    s.listTags =
      .group "items" "Items in the list" true (some identityKey) s.cardTags :: s.tagsAfterItems :=
  rfl

lemma OneLine.unbroken_listTags (h : s.OneLine) : ∀ t ∈ s.listTags, t.Unbroken := by
  have hfixed : ∀ t ∈ [Tag.data "totalCount" "number" (some "Total items in collection"),
      .variant "hasMore" "boolean" fastPhase (some "More items available"),
      .variant "isLoading" "boolean" fastPhase (some "Loading state"),
      .interactive "loadMoreButton" button (some "Load more trigger")], t.Legible := by decide
  rw [listTags_eq, List.forall_mem_cons, tagsAfterItems, List.forall_mem_append]
  exact ⟨Tag.unbroken_group (by decide) (by decide) (by decide) h.unbroken_cardTags,
    fun t ht => (hfixed t ht).unbroken, unbroken_navigationTags⟩

/-- The lines of a list page in front of those of its items. -/
def itemsHeader : List (List Char) :=
  ["  - tag: items", "    type: sub-contract", "    repeated: true", "    trackBy: _id",
    "    description: Items in the list", "    tags:"].map String.toList

/-- The lines of a list page: those of a card are indented by four more spaces. -/
lemma linesAll_listTags (s : CollectionShape) :
    Tag.linesAll 2 s.listTags =
      itemsHeader ++ (moved 4 (Tag.linesAll 2 s.cardTags) ++ Tag.linesAll 2 s.tagsAfterItems) := by
  rw [listTags_eq, Tag.linesAll, Tag.lines, ← Tag.linesAll_add, List.append_assoc]
  rfl

/-- The lines of a list page that are nested under its items are those of a card. -/
lemma takeWhile_linesAll_listTags (s : CollectionShape) :
    ((Tag.linesAll 2 s.listTags).drop 6).takeWhile (indented 6) =
      moved 4 (Tag.linesAll 2 s.cardTags) := by
  have hcard : ∀ l ∈ moved 4 (Tag.linesAll 2 s.cardTags), indented 6 l = true := by
    rw [← Tag.linesAll_add]
    intro l hl
    obtain ⟨t, -, hmem⟩ := Tag.mem_linesAll.mp hl
    exact Tag.indented_iff.mpr (Tag.spaces_prefix_of_mem_lines hmem)
  have hafter : ∀ l ∈ (Tag.linesAll 2 s.tagsAfterItems).head?, indented 6 l = false := by
    rintro l ⟨⟩
    decide
  rw [linesAll_listTags, List.drop_left' (by rfl)]
  exact Tag.takeWhile_append_of_head hcard hafter

end CollectionShape

/-! ### Embedded references -/

/-- The tag of an embedded reference whose shape is known. -/
lemma tag?_of_embedded {f : FieldShape CollectionShape} {s : CollectionShape}
    (hreference : f.isReference = true) (hembedded : f.embedded = true) (hs : f.shape = some s) :
    f.tag? = some (f.embeddedGroup s.tags) := by
  rw [FieldShape.tag?_eq, hs, FieldShape.tagWith?]
  rw [FieldShape.isReference] at hreference
  cases hc : f.category with
  | reference | multiReference =>
      simp only [hembedded, if_true]
      rfl
  | simple | image | media | address | richContent | system =>
      rw [hc] at hreference
      cases hreference

/-- The lines of an embedded reference in front of those of the embedded collection. -/
def FieldShape.headerLines (n : Nat) (f : FieldShape CollectionShape) : List (List Char) :=
  let multiple := f.category == .multiReference
  (Tag.groupHeader n f.key (Tag.describe f.key f.displayName) multiple
    (if multiple then some identityKey else none)).map String.toList

/-- The lines of an embedded reference: its header, and the embedded collection further in. -/
lemma lines_embeddedGroup (f : FieldShape CollectionShape) (s : CollectionShape) (n : Nat) :
    (f.embeddedGroup s.tags).lines n =
      f.headerLines n ++ moved (n + 2) (Tag.linesAll 2 s.tags) := by
  rw [FieldShape.embeddedGroup, Tag.lines, ← Tag.linesAll_add, Nat.add_comm 2]
  rfl

/-- The fields that the page of an item shows, with their depth: its content fields, and those of
the collections that are embedded in a field shown. -/
inductive CollectionShape.Shown (s : CollectionShape) : Nat → FieldShape CollectionShape → Prop
  | own {f : FieldShape CollectionShape} (h : f ∈ s.contentFields) : Shown s 0 f
  | inside {k : Nat} {f g : FieldShape CollectionShape} {t : CollectionShape} (h : Shown s k f)
      (isReference : f.isReference = true) (embedded : f.embedded = true) (shape : f.shape = some t)
      (content : g ∈ t.contentFields) : Shown s (k + 1) g

namespace Tag

/-- What is inside a tag that stands inside others is one level deeper inside these. -/
lemma Inside.child {ts : List Tag} {k : Nat} {t u : Tag} (h : Inside ts k t)
    (hu : u ∈ t.children) : Inside ts (k + 1) u := by
  induction h with
  | here ht => exact .deeper ht (.here hu)
  | deeper ht _ ih => exact .deeper ht (ih hu)

end Tag

/-- The tag of a field that is shown at some depth stands as deep inside the tags of the page. -/
lemma CollectionShape.Shown.inside_itemTags {s : CollectionShape} {k : Nat}
    {f : FieldShape CollectionShape} (h : s.Shown k f) {t : Tag} (ht : f.tag? = some t) :
    Tag.Inside s.itemTags k t := by
  induction h generalizing t with
  | own hf =>
      refine .here ?_
      rw [itemTags, List.mem_append, List.mem_append]
      exact Or.inl (Or.inr (List.mem_filterMap.mpr ⟨_, hf, ht⟩))
  | @inside k f g u _ hreference hembedded hu hg ih =>
      refine (ih (tag?_of_embedded hreference hembedded hu)).child ?_
      rw [FieldShape.embeddedGroup, Tag.children, tags_eq]
      exact .tail _ (List.mem_filterMap.mpr ⟨g, hg, ht⟩)

/-- A field that is shown belongs to a shape that stands inside. -/
lemma CollectionShape.Shown.exists_within {s : CollectionShape} {k : Nat}
    {f : FieldShape CollectionShape} (h : s.Shown k f) :
    ∃ u : CollectionShape, u.Within s ∧ f ∈ u.fields := by
  induction h with
  | own hf => exact ⟨s, .refl, List.mem_of_mem_filter hf⟩
  | @inside k f g t _ _ _ ht hg ih =>
      obtain ⟨u, hu, hf⟩ := ih
      exact ⟨t, hu.tail ⟨f, hf, ht⟩, List.mem_of_mem_filter hg⟩

/-- The keys and names in what is embedded in a field that is shown hold no line feeds. -/
lemma CollectionShape.OneLine.of_shown {s t : CollectionShape} (hs : s.OneLine) {k : Nat}
    {f : FieldShape CollectionShape} (h : s.Shown k f) (ht : f.shape = some t) : t.OneLine := by
  obtain ⟨u, hu, hf⟩ := h.exists_within
  exact fun v hv => hs v ((hu.tail ⟨f, hf, ht⟩).trans hv)

/-! ### Uniformity -/

/-- The lines of the tags of a contract. -/
def Contract.bodyLines (c : Contract) : List (List Char) := linesOf c.descriptor.body.toList

/-- The lines of a collection that is embedded, at the indentation of the outermost tags. -/
def CollectionShape.innerLines (s : CollectionShape) : List (List Char) :=
  linesOf ("\n".intercalate (Tag.renderAll outerIndent s.tags)).toList

lemma CollectionShape.OneLine.innerLines_eq {s : CollectionShape} (h : s.OneLine) :
    s.innerLines = Tag.linesAll 2 s.tags := by
  refine Tag.linesOf_renderAll h.unbroken_tags ?_ 2
  rw [tags_eq]
  exact List.cons_ne_nil _ _

lemma bodyLines_contract {s : CollectionShape} {w : Widget}
    (h : ∀ t ∈ s.widgetTags w, t.Unbroken) :
    (s.contract w).bodyLines = Tag.linesAll 2 (s.widgetTags w) :=
  Tag.linesOf_renderAll h (s.widgetTags_ne_nil w) 2

/-- **Rendering is uniform in the indentation.** Where keys and names hold no line feeds, `n` more
spaces of indentation put `n` spaces before each line of the text of a field, and of each tag of a
card and of an embedded collection. So the lines nested under the items of a list are those of the
card, shifted by four spaces; and wherever a reference is embedded, at whatever depth, its header is
followed by the lines of the embedded collection, shifted as far as it stands itself and two spaces
more. -/
theorem rendering_is_uniform (i n : Nat) :
    (∀ f : FieldShape CollectionShape, f.OneLine → (∀ s, f.shape = some s → s.OneLine) →
      (∀ t, f.tag? = some t → t.render (i + n : Nat) = shifted n (t.render i)) ∧
      ∀ s, f.isReference = true → f.embedded = true → f.shape = some s →
        ∃ t, f.tag? = some t ∧
          linesOf (t.render i).toList = f.headerLines i ++ moved (i + 2) s.innerLines) ∧
    ∀ s : CollectionShape, s.OneLine →
      Tag.renderAll (i + n : Nat) s.cardTags = (Tag.renderAll i s.cardTags).map (shifted n) ∧
      Tag.renderAll (i + n : Nat) s.tags = (Tag.renderAll i s.tags).map (shifted n) ∧
      (s.contract .list).bodyLines.take 6 = CollectionShape.itemsHeader ∧
      ((s.contract .list).bodyLines.drop 6).takeWhile (indented 6) =
        moved 4 (s.contract .card).bodyLines ∧
      ∀ k f t, s.Shown k f → f.isReference = true → f.embedded = true → f.shape = some t →
        f.headerLines (2 + 4 * k) ++ moved (2 + 4 * k + 2) t.innerLines <:+:
          (s.contract .item).bodyLines := by
  constructor
  · intro f hf hshape
    refine ⟨fun t ht => (unbroken_tag? hf hshape ht).render_add i n, ?_⟩
    intro s hreference hembedded hs
    have htag := tag?_of_embedded hreference hembedded hs
    refine ⟨_, htag, ?_⟩
    rw [(unbroken_tag? hf hshape htag).linesOf_render, lines_embeddedGroup,
      (hshape s hs).innerLines_eq]
  · intro s hs
    have hlist := bodyLines_contract (w := .list) hs.unbroken_listTags
    have hcard := bodyLines_contract (w := .card) hs.unbroken_cardTags
    have hitem := bodyLines_contract (w := .item) hs.unbroken_itemTags
    refine ⟨Tag.renderAll_add hs.unbroken_cardTags i n, Tag.renderAll_add hs.unbroken_tags i n,
      ?_, ?_, ?_⟩
    · rw [hlist, CollectionShape.widgetTags, CollectionShape.linesAll_listTags]
      exact List.take_left' (by rfl)
    · rw [hlist, hcard]
      exact s.takeWhile_linesAll_listTags
    · intro k f t hshown hreference hembedded ht
      have hinside := hshown.inside_itemTags (tag?_of_embedded hreference hembedded ht)
      have hlines := hinside.lines_infix 2
      rwa [lines_embeddedGroup, ← (hs.of_shown hshown ht).innerLines_eq,
        ← CollectionShape.widgetTags, ← hitem] at hlines

/-! ### Notes with the books of their writers -/

namespace Sample

/-- The field of notes in which their writer is embedded. -/
def writer : FieldShape CollectionShape :=
  ⟨"writer", .reference, .string, some "- tag: x", true, some people⟩

/-- The field of people in which their books are embedded. -/
def booksOfPeople : FieldShape CollectionShape :=
  ⟨"books", .multiReference, .string, none, true, some books⟩

lemma oneLine_of_plain {s : CollectionShape}
    (h : ∀ t : CollectionShape, t.Within s → ∀ f ∈ t.fields, f.Plain) : s.OneLine :=
  fun t ht f hf => ⟨(h t ht f hf).avoids_key, (h t ht f hf).displayName⟩

lemma shown_booksOfPeople : notes.Shown 1 booksOfPeople := by
  have hwriter : notes.Shown 0 writer := .own (.tail _ (.head _))
  exact .inside hwriter rfl rfl rfl (.tail _ (.head _))

end Sample

/-- The books are two levels inside the notes: their lines stand ten spaces from the margin. -/
theorem rendering_is_uniform_sample :
    Sample.writer.OneLine ∧ Sample.people.OneLine ∧ Sample.notes.OneLine ∧
      (∃ t, Sample.writer.tag? = some t ∧ t.render (2 + 4 : Nat) = shifted 4 (t.render 2) ∧
        linesOf (t.render 2).toList =
          Sample.writer.headerLines 2 ++ moved 4 Sample.people.innerLines) ∧
      ((Sample.notes.contract .list).bodyLines.drop 6).takeWhile (indented 6) =
        moved 4 (Sample.notes.contract .card).bodyLines ∧
      Sample.notes.Shown 1 Sample.booksOfPeople ∧
      Sample.booksOfPeople.headerLines 6 ++ moved 8 Sample.books.innerLines <:+:
        (Sample.notes.contract .item).bodyLines := by
  obtain ⟨hfields, hshapes⟩ := rendering_is_uniform 2 4
  have hwriter : Sample.writer.OneLine := by decide
  have hpeople : Sample.people.OneLine := Sample.oneLine_of_plain Sample.plain_people
  have hnotes : Sample.notes.OneLine := Sample.oneLine_of_plain Sample.plain_notes.fields
  obtain ⟨hrender, hlines⟩ := hfields Sample.writer hwriter fun s hs => by
    obtain rfl := Option.some.inj hs
    exact hpeople
  obtain ⟨t, ht, hwriterLines⟩ := hlines Sample.people rfl rfl rfl
  obtain ⟨-, -, -, hitems, hshown⟩ := hshapes Sample.notes hnotes
  exact ⟨hwriter, hpeople, hnotes, ⟨t, ht, hrender t ht, hwriterLines⟩, hitems,
    Sample.shown_booksOfPeople, hshown 1 _ _ Sample.shown_booksOfPeople rfl rfl rfl⟩

end WidgetContracts
