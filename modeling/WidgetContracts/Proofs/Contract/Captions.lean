/-
Display names in contracts.

* `Field.unnamed`, `Collection.unnamed`: without display names.
* `NamesAlike`, `Collection.CaptionsAlike`: display names that have the same effect, or make
  captions of one line.
* `FieldShape.tag?_of_unnamed`: how the tags of fields differ that differ in their display names.
* `CollectionShape.Renamed`, `CollectionShape.Recaptioned`: shapes that differ in display names, and
  in names that are alike.
* `unnamed_resolveField`: fields that differ in their display names are resolved alike.
* `Contract.bare`, `Contract.feeds`, `Contract.textLines`: a contract without descriptions, the line
  feeds in its descriptions, and the lines of its text.
* `display_names_stay_in_descriptions`: display names change nothing but descriptions, and the text
  of a contract keeps its lines as long as they bring no line feeds with them.
* `display_name_adds_tag`: a line feed in a display name adds a line that reads as a tag.
-/
import WidgetContracts.Entry.Check
import WidgetContracts.Proofs.Contract.Content
import WidgetContracts.Proofs.Contract.Decode
import WidgetContracts.Proofs.Tag.Outline

namespace WidgetContracts

/-! ### Fields with other names -/

/-- Two display names have the same effect, or both make captions of one line; `fallback` is the
caption where there is no name. -/
def NamesAlike (fallback : String) (o o' : Option String) : Prop :=
  given o = given o' ∨
    Avoids ((given o).getD fallback) ['\n'] ∧ Avoids ((given o').getD fallback) ['\n']

lemma avoids_of_avoids_caption {fallback : String} {o : Option String}
    (h : Avoids ((given o).getD fallback) ['\n']) : ∀ x ∈ o, Avoids x ['\n'] := by
  intro x hx
  obtain rfl := Option.mem_def.mp hx
  by_cases hempty : x = ""
  · subst hempty
    decide
  · rw [given_some hempty] at h
    exact h

lemma NamesAlike.descriptionsAlike {fallback : String} {o o' : Option String}
    (h : NamesAlike fallback o o') : DescriptionsAlike o o' :=
  h.imp_right fun ⟨ho, ho'⟩ => ⟨avoids_of_avoids_caption ho, avoids_of_avoids_caption ho'⟩

namespace FieldShape

/-- A classified field without its display name. -/
def unnamed {σ : Type} (f : FieldShape σ) : FieldShape σ := { f with displayName := none }

variable {f g : FieldShape CollectionShape}

lemma key_of_unnamed (h : f.unnamed = g.unnamed) : f.key = g.key := by
  have hkey : f.unnamed.key = g.unnamed.key := by rw [h]
  exact hkey

lemma category_of_unnamed (h : f.unnamed = g.unnamed) : f.category = g.category := by
  have hcategory : f.unnamed.category = g.unnamed.category := by rw [h]
  exact hcategory

/-- Fields that differ in their display names have the same tag, or tags that differ in the
descriptions that come of the names. -/
lemma tag?_of_unnamed (h : f.unnamed = g.unnamed) :
    f.tag? = g.tag? ∨
      (∃ v, Avoids v ['\n'] ∧ f.tag? = some (.data f.key v f.displayName) ∧
        g.tag? = some (.data f.key v g.displayName)) ∨
      ∃ r b ts, f.tag? = some (.group f.key (Tag.describe f.key f.displayName) r b ts) ∧
        g.tag? = some (.group f.key (Tag.describe f.key g.displayName) r b ts) := by
  obtain ⟨key, category, valueType, name, embedded, shape⟩ := f
  obtain ⟨key', category', valueType', name', embedded', shape'⟩ := g
  cases h
  rw [tag?_eq, tag?_eq, tagWith?, tagWith?]
  cases category with
  | system => exact Or.inl rfl
  | simple =>
      refine Or.inr (Or.inl ⟨valueType.word, ?_, rfl, rfl⟩)
      cases valueType <;> decide
  | richContent => exact Or.inr (Or.inl ⟨"string", by decide, rfl, rfl⟩)
  | image | media | address => exact Or.inr (Or.inr ⟨_, _, _, rfl, rfl⟩)
  | reference | multiReference =>
      cases embedded with
      | false => exact Or.inl rfl
      | true => exact Or.inr (Or.inr ⟨_, _, _, rfl, rfl⟩)

/-- The tags of such fields are the same without descriptions. -/
lemma bare_tag?_of_unnamed (h : f.unnamed = g.unnamed) :
    Option.Rel (fun t t' => Tag.bare t = t'.bare) f.tag? g.tag? := by
  rcases tag?_of_unnamed h with hsame | ⟨v, -, hf, hg⟩ | ⟨r, b, ts, hf, hg⟩
  · rw [hsame]
    cases g.tag? with
    | none => exact .none
    | some t => exact .some rfl
  · rw [hf, hg]
    exact .some rfl
  · rw [hf, hg]
    exact .some rfl

/-- Two fields differ in their display names, which are alike. -/
structure Recaptioned (f g : FieldShape CollectionShape) : Prop where
  unnamed : f.unnamed = g.unnamed
  names : NamesAlike f.key f.displayName g.displayName

/-- The tags of such fields differ in a description only. -/
lemma Recaptioned.alike_tag? (h : f.Recaptioned g) : Option.Rel Tag.Alike f.tag? g.tag? := by
  rcases tag?_of_unnamed h.unnamed with hsame | ⟨v, hv, hf, hg⟩ | ⟨r, b, ts, hf, hg⟩
  · rw [hsame]
    cases g.tag? with
    | none => exact .none
    | some t => exact .some (.refl t)
  · rw [hf, hg]
    exact .some (.data hv h.names.descriptionsAlike)
  · rw [hf, hg]
    rcases h.names with hgiven | ⟨hcaption, hcaption'⟩
    · rw [Tag.describe, Tag.describe, hgiven]
      exact .some (.refl _)
    · exact .some (.group hcaption hcaption')

end FieldShape

/-! ### Shapes with other names -/

namespace CollectionShape

variable {s t : CollectionShape}

section

variable {R : FieldShape CollectionShape → FieldShape CollectionShape → Prop}
  (hR : ∀ {f g}, R f g → f.category = g.category) (h : List.Forall₂ R s.fields t.fields)

include hR h

lemma forall₂_contentFields : List.Forall₂ R s.contentFields t.contentFields :=
  List.rel_filter (fun f g hfg => by simp only [FieldShape.isContent, hR hfg]) h

lemma forall₂_cardFields : List.Forall₂ R s.cardFields t.cardFields :=
  List.rel_filter (fun f g hfg => by simp only [FieldShape.isCard, hR hfg]) h

lemma forall₂_tableFields : List.Forall₂ R s.tableFields t.tableFields :=
  List.rel_filter (fun f g hfg => by simp only [FieldShape.isTable, hR hfg]) h

end

/-- Two shapes differ in display names only. -/
structure Renamed (s t : CollectionShape) : Prop where
  collectionId : s.collectionId = t.collectionId
  entry : s.entry = t.entry
  fields : List.Forall₂ (fun f g => f.unnamed = g.unnamed) s.fields t.fields

namespace Renamed

lemma tableTags_eq (h : s.Renamed t) : s.tableTags = t.tableTags := by
  have hcolumns := forall₂_tableFields FieldShape.category_of_unnamed h.fields
  refine tableTags_congr ?_
  rw [columnKeys, columnKeys, map_key_congr FieldShape.key_of_unnamed hcolumns]

/-- Without descriptions such shapes have the same tags, for every widget. -/
lemma bareAll_widgetTags (h : s.Renamed t) (w : Widget) :
    Tag.bareAll (s.widgetTags w) = Tag.bareAll (t.widgetTags w) := by
  have hbare : ∀ {fs gs : List (FieldShape CollectionShape)},
      List.Forall₂ (fun f g => f.unnamed = g.unnamed) fs gs →
        Tag.bareAll (fieldTags fs) = Tag.bareAll (fieldTags gs) := by
    intro fs gs hfields
    have htags := List.rel_filterMap (fun _ _ hf => FieldShape.bare_tag?_of_unnamed hf) hfields
    rw [Tag.bareAll_eq_map, Tag.bareAll_eq_map, ← List.forall₂_eq_eq_eq,
      List.forall₂_map_left_iff, List.forall₂_map_right_iff]
    exact htags
  have hcontent := hbare (forall₂_contentFields FieldShape.category_of_unnamed h.fields)
  have hcards := hbare (forall₂_cardFields FieldShape.category_of_unnamed h.fields)
  have hcardTags : Tag.bareAll s.cardTags = Tag.bareAll t.cardTags := by
    rw [cardTags, cardTags, Tag.bareAll_append, Tag.bareAll_append, hcards]
  cases w with
  | item =>
      simp only [widgetTags, itemTags, Tag.bareAll_append, hcontent, navigationTags_congr h.entry]
  | list =>
      simp only [widgetTags, listTags, Tag.bareAll_append, Tag.bareAll, Tag.bare, hcardTags,
        navigationTags_congr h.entry]
  | table => rw [widgetTags, widgetTags, h.tableTags_eq]
  | card => exact hcardTags

end Renamed

/-- Two shapes differ in display names only, which are alike. -/
structure Recaptioned (s t : CollectionShape) : Prop where
  renamed : s.Renamed t
  label : NamesAlike s.collectionId s.displayName t.displayName
  fields : List.Forall₂ FieldShape.Recaptioned s.fields t.fields

/-- The tags of such shapes have lines that are alike, for every widget. -/
lemma Recaptioned.forall₂_linesAll (h : s.Recaptioned t) (w : Widget) (n : Nat) :
    List.Forall₂ TextsAlike (Tag.linesAll n (s.widgetTags w))
      (Tag.linesAll n (t.widgetTags w)) := by
  have hsame : ∀ ts : List Tag, List.Forall₂ Tag.Alike ts ts :=
    fun ts => List.forall₂_same.mpr fun t _ => .refl t
  have htags : ∀ {fs gs : List (FieldShape CollectionShape)},
      List.Forall₂ FieldShape.Recaptioned fs gs →
        List.Forall₂ Tag.Alike (fieldTags fs) (fieldTags gs) :=
    fun hfields => List.rel_filterMap (fun _ _ hf => hf.alike_tag?) hfields
  have hcategory : ∀ {f g : FieldShape CollectionShape}, f.Recaptioned g →
      f.category = g.category := fun hf => FieldShape.category_of_unnamed hf.unnamed
  have hcards : List.Forall₂ Tag.Alike s.cardTags t.cardTags :=
    List.rel_append (hsame _) (htags (forall₂_cardFields hcategory h.fields))
  cases w with
  | item =>
      have hcontent := htags (forall₂_contentFields hcategory h.fields)
      refine Tag.forall₂_linesAll (List.rel_append (List.rel_append (hsame _) hcontent) ?_) n
      rw [navigationTags_congr h.renamed.entry]
      exact hsame _
  | list =>
      -- the group of the items differs inside, where the tags of a card stand
      rw [widgetTags, widgetTags, listTags, listTags, navigationTags_congr h.renamed.entry]
      refine List.rel_append (List.rel_append ?_ (Tag.forall₂_linesAll hcards (n + 4)))
        (Tag.forall₂_linesAll (hsame _) n)
      exact TextsAlike.refl_all _
  | table =>
      rw [widgetTags, widgetTags, h.renamed.tableTags_eq]
      exact Tag.forall₂_linesAll (hsame _) n
  | card => exact Tag.forall₂_linesAll hcards n

end CollectionShape

/-! ### Lines of a contract -/

namespace Contract

/-- A contract without descriptions. -/
def bare (c : Contract) : Contract := ⟨c.name, "", Tag.bareAll c.tags⟩

/-- The number of line feeds in the descriptions of a contract. -/
def feeds (c : Contract) : Nat := lineFeeds c.description + Tag.feedsAll c.tags

/-- The lines of the text of a contract. -/
def textLines (c : Contract) : List (List Char) := linesOf c.descriptor.render.toList

variable {c c' : Contract}

lemma lines_ne_nil (c : Contract) : c.lines ≠ [] := List.cons_ne_nil _ _

lemma textLines_eq (h : c.tags ≠ []) : c.textLines = c.lines.flatMap linesOf := by
  rw [textLines, render_toList h, linesOf_intercalate c.lines_ne_nil]

/-- The text of a contract has the lines that it has without descriptions, and one more for each
line feed in them. -/
lemma length_textLines (h : c.tags ≠ []) :
    c.textLines.length = c.bare.textLines.length + c.feeds := by
  have hbare : c.bare.tags ≠ [] := by
    rw [bare, Tag.bareAll_eq_map]
    exact mt List.map_eq_nil_iff.mp h
  have htags := Tag.length_flatMap_linesAll (n := 2) fun t (_ : t ∈ c.tags) =>
    t.length_flatMap_lines 2
  have hdescription : ∀ d : String,
      (linesOf ("description: ".toList ++ d.toList)).length = lineFeeds d + 1 := by
    intro d
    have hwords : "description: ".toList.count '\n' = 0 := rfl
    rw [length_linesOf, List.count_append, hwords, Nat.zero_add, lineFeeds]
  rw [textLines_eq h, textLines_eq hbare, lines, lines, feeds, bare]
  simp only [List.flatMap_cons, List.length_append, hdescription, htags]
  have hempty : lineFeeds "" = 0 := rfl
  omega

/-- Contracts whose tags have alike lines, and whose descriptions are the same or one line, have
texts with alike lines. -/
lemma forall₂_textLines (hname : c.name = c'.name)
    (hdescription : c.description = c'.description ∨
      Avoids c.description ['\n'] ∧ Avoids c'.description ['\n'])
    (hne : c.tags ≠ []) (hne' : c'.tags ≠ [])
    (htags : List.Forall₂ TextsAlike (Tag.linesAll 2 c.tags) (Tag.linesAll 2 c'.tags)) :
    List.Forall₂ LinesAlike c.textLines c'.textLines := by
  have hfield : TextsAlike ("description: ".toList ++ c.description.toList)
      ("description: ".toList ++ c'.description.toList) := by
    rcases hdescription with hsame | ⟨hd, hd'⟩
    · rw [hsame]
      exact .refl _
    · exact .field 0 hd hd'
  have hlines : List.Forall₂ TextsAlike c.lines c'.lines := by
    rw [lines, lines, hname]
    exact .cons (.refl _) (.cons hfield (.cons (.refl _) htags))
  have htext := TextsAlike.intercalate hlines c.lines_ne_nil
  rw [← render_toList hne, ← render_toList hne'] at htext
  exact htext

end Contract

/-! ### Collections with other names -/

/-- A field without its display name. -/
def Field.unnamed (f : Field) : Field := { f with displayName := none }

/-- A collection without display names. -/
def Collection.unnamed (c : Collection) : Collection := ⟨c.id, none, c.fields.map Field.unnamed⟩

/-- The display names of two collections, and of their fields, are alike. -/
structure Collection.CaptionsAlike (c c' : Collection) (e : Entry) : Prop where
  label : NamesAlike (orElse c.id e.collectionId) c.displayName c'.displayName
  fields : ∀ p ∈ c.fields.zip c'.fields, NamesAlike p.1.key p.1.displayName p.2.displayName

/-- Fields that differ in their display names are resolved to fields that differ in them. -/
lemma unnamed_resolveField {f f' : Field} (h : f.unnamed = f'.unnamed) (source : Option Source)
    (owner : String) (path : List String) (ds : List Directive) :
    (resolveField source owner path ds f).value.unnamed =
      (resolveField source owner path ds f').value.unnamed := by
  obtain ⟨key, name, type, required, target⟩ := f
  obtain ⟨key', name', type', required', target'⟩ := f'
  cases h
  rw [resolveField, resolveField]
  cases directiveFor? key ds with
  | none => rfl
  | some d =>
      change (resolveUnder source owner path ⟨key, name, type, required, target⟩ d).value.unnamed =
        (resolveUnder source owner path ⟨key, name', type, required, target⟩ d).value.unnamed
      have hembeds : Field.isEmbeddingOf ⟨key, name', type, required, target⟩ d =
          Field.isEmbeddingOf ⟨key, name, type, required, target⟩ d := rfl
      unfold resolveUnder
      rw [hembeds]
      cases Field.isEmbeddingOf ⟨key, name, type, required, target⟩ d with
      | false => rfl
      | true =>
          cases source with
          | none => rfl
          | some s =>
              have hreference : s.reference owner path ⟨key, name', type, required, target⟩ d =
                  s.reference owner path ⟨key, name, type, required, target⟩ d := rfl
              rw [if_pos rfl, if_pos rfl, Traced.bind_value, Traced.bind_value, hreference]
              cases (s.reference owner path ⟨key, name, type, required, target⟩ d).value with
              | none => rfl
              | some p => rfl

/-- The caption of a resolved field is that of the field. -/
lemma key_and_displayName_fieldTrace (source : Option Source) (path : List String) (c : Collection)
    (e : Entry) (f : Field) : (fieldTrace source path c e f).value.key = f.key ∧
      (fieldTrace source path c e f).value.displayName = f.displayName := by
  obtain ⟨embedded, shape, hf⟩ := exists_resolveField_eq source (orElse c.id e.collectionId)
    (orElse c.id e.collectionId :: path) e.references f
  rw [fieldTrace, hf]
  exact ⟨rfl, rfl⟩

section

variable {c c' : Collection}

lemma Collection.forall₂_unnamed (h : c.unnamed = c'.unnamed) :
    List.Forall₂ (fun f f' => f.unnamed = f'.unnamed) c.fields c'.fields := by
  have hfields : c.fields.map Field.unnamed = c'.fields.map Field.unnamed :=
    (Collection.mk.inj h).2.2
  rw [← List.forall₂_eq_eq_eq, List.forall₂_map_left_iff, List.forall₂_map_right_iff] at hfields
  exact hfields

/-- Collections that differ in display names are resolved to shapes that differ in them. -/
lemma renamed_resolve (h : c.unnamed = c'.unnamed) (source : Option Source) (path : List String)
    (e : Entry) :
    (resolve source path c e).value.Renamed (resolve source path c' e).value := by
  have hid : c.id = c'.id := (Collection.mk.inj h).1
  refine ⟨?_, ?_, ?_⟩
  · rw [resolve_collectionId, resolve_collectionId, hid]
  · rw [resolve_entry, resolve_entry]
  · rw [resolve_fields_eq, resolve_fields_eq, List.forall₂_map_left_iff,
      List.forall₂_map_right_iff]
    refine (Collection.forall₂_unnamed h).imp fun f f' hf => ?_
    rw [fieldTrace, fieldTrace, hid]
    exact unnamed_resolveField hf _ _ _ _

/-- If the names are alike, so are those of the shapes. -/
lemma recaptioned_resolve (h : c.unnamed = c'.unnamed) {e : Entry} (hnames : c.CaptionsAlike c' e)
    (source : Option Source) (path : List String) :
    (resolve source path c e).value.Recaptioned (resolve source path c' e).value := by
  have hrenamed := renamed_resolve h source path e
  refine ⟨hrenamed, ?_, ?_⟩
  · rw [resolve_collectionId, resolve_displayName, resolve_displayName]
    exact hnames.label
  · have hfields := hrenamed.fields
    rw [resolve_fields_eq, resolve_fields_eq, List.forall₂_map_left_iff,
      List.forall₂_map_right_iff, List.forall₂_iff_zip] at hfields ⊢
    refine ⟨hfields.1, fun {f f'} hmem => ⟨hfields.2 hmem, ?_⟩⟩
    obtain ⟨hkey, hname⟩ := key_and_displayName_fieldTrace source path c e f
    obtain ⟨-, hname'⟩ := key_and_displayName_fieldTrace source path c' e f'
    rw [hkey, hname, hname']
    exact hnames.fields (f, f') hmem

end

lemma avoids_purpose (w : Widget) : Avoids w.purpose ['\n'] := by
  cases w <;> decide

/-- **Display names stay in descriptions**: of two collections that differ in display names only,
the contracts are the same without descriptions; their texts have as many lines exactly when the
descriptions bring as many line feeds with them; and where the names that differ make captions of
one line, the lines are alike one by one. -/
theorem display_names_stay_in_descriptions {c c' : Collection} (h : c.unnamed = c'.unnamed)
    (source : Option Source) (path : List String) (e : Entry) (w : Widget) :
    ((resolve source path c e).value.contract w).bare =
        ((resolve source path c' e).value.contract w).bare ∧
      (((resolve source path c e).value.contract w).textLines.length =
          ((resolve source path c' e).value.contract w).textLines.length ↔
        ((resolve source path c e).value.contract w).feeds =
          ((resolve source path c' e).value.contract w).feeds) ∧
      (c.CaptionsAlike c' e →
        List.Forall₂ LinesAlike ((resolve source path c e).value.contract w).textLines
          ((resolve source path c' e).value.contract w).textLines) := by
  have hrenamed := renamed_resolve h source path e
  have hne : ((resolve source path c e).value.contract w).tags ≠ [] :=
    CollectionShape.widgetTags_ne_nil _ w
  have hne' : ((resolve source path c' e).value.contract w).tags ≠ [] :=
    CollectionShape.widgetTags_ne_nil _ w
  have hname : ((resolve source path c e).value.contract w).name =
      ((resolve source path c' e).value.contract w).name :=
    congrArg (contractName · w) hrenamed.collectionId
  have hbare : ((resolve source path c e).value.contract w).bare =
      ((resolve source path c' e).value.contract w).bare := by
    rw [Contract.bare, Contract.bare, hname]
    exact congrArg _ (hrenamed.bareAll_widgetTags w)
  refine ⟨hbare, ?_, fun hnames => ?_⟩
  · rw [Contract.length_textLines hne, Contract.length_textLines hne', hbare,
      Nat.add_left_cancel_iff]
  · have hrecaptioned := recaptioned_resolve h hnames source path
    refine Contract.forall₂_textLines hname ?_ hne hne' (hrecaptioned.forall₂_linesAll w 2)
    have hid := hrenamed.collectionId
    rcases hrecaptioned.label with hsame | ⟨hlabel, hlabel'⟩
    · refine Or.inl (congrArg (w.purpose ++ ·) ?_)
      rw [CollectionShape.label, CollectionShape.label, hsame, hid]
    · rw [hid] at hlabel'
      exact Or.inr ⟨avoids_append.mpr ⟨avoids_purpose w, hlabel⟩,
        avoids_append.mpr ⟨avoids_purpose w, hlabel'⟩⟩

/-! ### Albums with names for their fields -/

namespace Sample

/-- Albums with a cover and a title, under given names. -/
def albums (name : Option String) (cover title : String) : Collection :=
  ⟨"Albums", name, [⟨"cover", some cover, "IMAGE", false, none⟩,
    ⟨"title", some title, "TEXT", false, none⟩]⟩

/-- An entry that asks for cards of the albums. -/
def albumsEntry : Entry :=
  ⟨"Albums", "/albums", "slug", [], none, some { Components.none with cardWidget := true }⟩

/-- A name that ends the line of its tag and begins a line with another tag. -/
def forgedName : String := "Title\x7d\n  - \x7btag: price, type: data, dataType: number"

lemma captionsAlike_albums :
    (albums none "Cover" "Title").CaptionsAlike (albums (some "All albums") "" "Name")
      albumsEntry := by
  refine ⟨Or.inr ⟨by decide, by decide⟩, ?_⟩
  change ∀ p ∈ [_, _], _
  simp only [List.forall_mem_cons]
  exact ⟨Or.inr ⟨by decide, by decide⟩, Or.inr ⟨by decide, by decide⟩, List.forall_mem_nil _⟩

/-- The resolved albums. -/
def albumsShape (name : Option String) (cover title : String) : CollectionShape :=
  ⟨"Albums", name, albumsEntry, [⟨"cover", .image, .string, some cover, false, none⟩,
    ⟨"title", .simple, .string, some title, false, none⟩]⟩

lemma resolve_albums (name : Option String) (cover title : String) :
    (resolve (some source) [] (albums name cover title) albumsEntry).value =
      albumsShape name cover title := by
  have hcover : categoryOf "cover" (some "IMAGE") = .image := by decide
  have htitle : categoryOf "title" (some "TEXT") = .simple := by decide
  have himage : valueTypeOf (some "IMAGE") = .string := by decide
  have htext : valueTypeOf (some "TEXT") = .string := by decide
  rw [resolve_value]
  change CollectionShape.mk "Albums" name albumsEntry
    [Field.shape ⟨"cover", some cover, "IMAGE", false, none⟩ false none,
      Field.shape ⟨"title", some title, "TEXT", false, none⟩ false none] = _
  rw [Field.shape, Field.shape, hcover, htitle, himage, htext]
  rfl

/-- The contract of a card of the albums. -/
def card (name : Option String) (cover title : String) : Contract :=
  (resolve (some source) [] (albums name cover title) albumsEntry).value.contract .card

lemma card_tags (name : Option String) (cover title : String) :
    (card name cover title).tags =
      [.data "_id" "string" none, .data "url" "string" (some "Full URL to item page"),
        .interactive "itemLink" anchor none, Tag.image "cover" (some cover),
        .data "title" "string" (some title)] := by
  rw [card, resolve_albums]
  rfl

end Sample

theorem display_names_stay_in_descriptions_sample :
    (Sample.albums none "Cover" "Title").unnamed =
        (Sample.albums (some "All albums") "" "Name").unnamed ∧
      (Sample.albums none "Cover" "Title").CaptionsAlike
        (Sample.albums (some "All albums") "" "Name") Sample.albumsEntry ∧
      List.Forall₂ LinesAlike (Sample.card none "Cover" "Title").textLines
        (Sample.card (some "All albums") "" "Name").textLines := by
  have hunnamed : (Sample.albums none "Cover" "Title").unnamed =
      (Sample.albums (some "All albums") "" "Name").unnamed := rfl
  obtain ⟨-, -, halike⟩ := display_names_stay_in_descriptions hunnamed (some Sample.source) []
    Sample.albumsEntry .card
  exact ⟨hunnamed, Sample.captionsAlike_albums, halike Sample.captionsAlike_albums⟩

/-- **A line feed in a display name adds a line**, which reads as a tag that no field has. -/
theorem display_name_adds_tag :
    (Sample.albums none "Cover" "Title").unnamed =
        (Sample.albums none "Cover" Sample.forgedName).unnamed ∧
      Sample.albumsEntry.faults = [] ∧
      (Sample.card none "Cover" Sample.forgedName).textLines.length =
        (Sample.card none "Cover" "Title").textLines.length + 1 ∧
      "  - \x7btag: price, type: data, dataType: number\x7d".toList ∈
        (Sample.card none "Cover" Sample.forgedName).textLines := by
  have hne : ∀ title, (Sample.card none "Cover" title).tags ≠ [] := by
    intro title
    rw [Sample.card_tags]
    exact List.cons_ne_nil _ _
  have hbare : (Sample.card none "Cover" Sample.forgedName).bare =
      (Sample.card none "Cover" "Title").bare := by
    rw [Contract.bare, Contract.bare, Sample.card_tags, Sample.card_tags, Sample.card, Sample.card,
      Sample.resolve_albums, Sample.resolve_albums]
    rfl
  have hfeeds : (Sample.card none "Cover" Sample.forgedName).feeds =
      (Sample.card none "Cover" "Title").feeds + 1 := by
    rw [Contract.feeds, Contract.feeds, Sample.card_tags, Sample.card_tags, Sample.card,
      Sample.card, Sample.resolve_albums, Sample.resolve_albums]
    decide +kernel
  refine ⟨rfl, rfl, ?_, ?_⟩
  · rw [Contract.length_textLines (hne _), Contract.length_textLines (hne _), hbare, hfeeds,
      Nat.add_assoc]
  · rw [Contract.textLines_eq (hne _), List.mem_flatMap, Contract.lines, Sample.card_tags]
    have hline : ((Tag.data "title" "string" (some Sample.forgedName)).render 2).toList ∈
        (Tag.data "title" "string" (some Sample.forgedName)).lines 2 := by
      rw [Tag.lines]
      exact List.mem_singleton_self _
    refine ⟨_, List.mem_cons_of_mem _ (List.mem_cons_of_mem _ (List.mem_cons_of_mem _
      (Tag.mem_linesAll.mpr ⟨_, ?_, hline⟩))), by decide +kernel⟩
    simp

end WidgetContracts
