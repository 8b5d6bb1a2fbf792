/-
Shapes that embed less than others.

* `CollectionShape.Matches`, `FieldShape.Matches`: two shapes are the same but for their fields, and
  two fields but for what they embed.
* `CollectionShape.Degrades`: a shape is another one with some references left as links, at any
  depth.
* `Source.ExtendedBy`: a source that answers at least what another answers.
* `Source.Resolves.mono`: what resolves does so over more answers and with less on the way.
* `resolve_degrades`: more answers and less on the way can only add embedded collections.
-/
import Mathlib.Data.List.Forall2
import WidgetContracts.Proofs.Resolve.Requests

namespace WidgetContracts

/-! ### Degradation -/

/-- Two shapes are the same but for their fields. -/
structure CollectionShape.Matches (s t : CollectionShape) : Prop where
  collectionId : s.collectionId = t.collectionId
  displayName : s.displayName = t.displayName
  entry : s.entry = t.entry

/-- Two fields are the same but for what they embed. -/
structure FieldShape.Matches {σ : Type} (f g : FieldShape σ) : Prop where
  key : f.key = g.key
  category : f.category = g.category
  valueType : f.valueType = g.valueType
  displayName : f.displayName = g.displayName

mutual

/-- A shape degrades another that it matches: it has as many fields, each of which degrades the
field at its position. -/
inductive CollectionShape.Degrades : CollectionShape → CollectionShape → Prop
  | mk {s t : CollectionShape} (same : s.Matches t)
      (fields : List.Forall₂ FieldShape.Degrades s.fields t.fields) :
      CollectionShape.Degrades s t

/-- A field degrades another that it matches: it is not embedded, or both are, and what it embeds
degrades what the other embeds. -/
inductive FieldShape.Degrades :
    FieldShape CollectionShape → FieldShape CollectionShape → Prop
  | link {f g : FieldShape CollectionShape} (same : f.Matches g) (link : f.embedded = false) :
      FieldShape.Degrades f g
  | embedded {f g : FieldShape CollectionShape} (same : f.Matches g) (left : f.embedded = true)
      (right : g.embedded = true) (inside : Option.Rel CollectionShape.Degrades f.shape g.shape) :
      FieldShape.Degrades f g

end

/-! ### Sources with more answers -/

namespace Source

/-- A source answers at least what another answers, with the same collections, and gives time if the
other does. -/
structure ExtendedBy (s s' : Source) : Prop where
  time : s.hasNoTime = false → s'.hasNoTime = false
  answers : ∀ id c, s.Answers id c → s'.Answers id c

variable {s s' : Source}

lemma ExtendedBy.refl (s : Source) : s.ExtendedBy s := ⟨fun h => h, fun _ _ h => h⟩

/-- What is found over a source is found over one with more answers. -/
lemma ExtendedBy.ask_found (h : s.ExtendedBy s') {id : String} {c : Collection}
    (hc : (s.ask id).value = .found c) : (s'.ask id).value = .found c := by
  have htime : s'.hasNoTime = false := h.time (hasNoTime_eq_false_of_ask hc)
  exact ask_of_answers htime (h.answers id c (answers_of_ask hc))

/-- What resolves does so over more answers and with less on the way. -/
lemma Resolves.mono {path path' : List String} {ds : List Directive} {f : Field} {d : Directive}
    {t : String} {r : Collection} (h : s.Resolves path ds f d t r) (hs : s.ExtendedBy s')
    (hpath : path' ⊆ path) : s'.Resolves path' ds f d t r := by
  obtain ⟨htarget, hne, hoff⟩ := h.leads
  have hleads : f.LeadsTo path' d t :=
    ⟨htarget, hne, fun hon => hoff ⟨hpath hon.1, hon.2⟩⟩
  exact ⟨h.requested, hleads, hs.ask_found h.found⟩

end Source

/-! ### Resolving with more answers and less on the way -/

/-- Two shapes that collections of one identifier and one name are resolved to match. -/
lemma matches_resolve (source source' : Option Source) (path path' : List String)
    {c c' : Collection} (hid : c.id = c'.id) (hname : c.displayName = c'.displayName) (e : Entry) :
    (resolve source path c e).value.Matches (resolve source' path' c' e).value := by
  refine ⟨?_, ?_, ?_⟩
  · rw [resolve_collectionId, resolve_collectionId, hid]
  · rw [resolve_displayName, resolve_displayName, hname]
  · rw [resolve_entry, resolve_entry]

/-- Two fields that the same field is resolved to match. -/
lemma matches_shape (f : Field) (embedded embedded' : Bool)
    (shape shape' : Option CollectionShape) :
    (f.shape embedded shape).Matches (f.shape embedded' shape') :=
  ⟨rfl, rfl, rfl, rfl⟩

section

variable {s s' : Source}

/-- The step: a resolved field degrades the one over more answers and with less on the way, if the
collections embedded in it do. -/
lemma degrades_resolveField (hs : s.ExtendedBy s') {ds : List Directive}
    (ih : ∀ d ∈ ds, ∀ (id : String) (path path' : List String), path' ⊆ path →
      ∀ c : Collection, (resolve (some s) path c (nestedEntry id d)).value.Degrades
        (resolve (some s') path' c (nestedEntry id d)).value)
    {path path' : List String} (hpath : path' ⊆ path) (owner : String) (f : Field) :
    (resolveField (some s) owner path ds f).value.Degrades
      (resolveField (some s') owner path' ds f).value := by
  by_cases hres : ∃ d t r, s.Resolves path ds f d t r
  · obtain ⟨d, t, r, hr⟩ := hres
    have hsub := ih d hr.requested.mem (orElse r.id t) path path' hpath r
    rw [resolveField_of_resolves hr, resolveField_of_resolves (hr.mono hs hpath)]
    exact .embedded (matches_shape _ _ _ _ _) rfl rfl (.some hsub)
  · obtain ⟨embedded, shape, hvalue⟩ := exists_resolveField_eq (some s') owner path' ds f
    rw [resolveField_of_not_resolves hres, hvalue]
    exact .link (matches_shape _ _ _ _ _) rfl

/-- A resolved collection degrades the one over another source and another path, if its fields do.
-/
lemma degrades_of_fields {source source' : Option Source} {path path' : List String}
    {c : Collection} {e : Entry} (h : ∀ f, (fieldTrace source path c e f).value.Degrades
      (fieldTrace source' path' c e f).value) :
    (resolve source path c e).value.Degrades (resolve source' path' c e).value := by
  have hfields : List.Forall₂ FieldShape.Degrades (resolve source path c e).value.fields
      (resolve source' path' c e).value.fields := by
    rw [resolve_fields_eq, resolve_fields_eq, List.forall₂_map_left_iff,
      List.forall₂_map_right_iff, List.forall₂_same]
    exact fun f _ => h f
  exact .mk (matches_resolve source source' path path' rfl rfl e) hfields

/-- A resolved collection degrades the one over more answers and with less on the way, by induction
on the directives. -/
lemma degrades_of_extendedBy (hs : s.ExtendedBy s') (e : Entry) :
    ∀ path path' : List String, path' ⊆ path → ∀ c : Collection,
      (resolve (some s) path c e).value.Degrades (resolve (some s') path' c e).value := by
  induction e using Entry.ind with
  | _ e ih =>
      intro path path' hpath c
      refine degrades_of_fields fun f => ?_
      exact degrades_resolveField hs ih (List.cons_subset_cons _ hpath) _ f

/-- Without a source, what is on the way does not count. -/
lemma degrades_of_none (path path' : List String) (c : Collection) (e : Entry) :
    (resolve none path c e).value.Degrades (resolve none path' c e).value := by
  refine degrades_of_fields fun f => ?_
  obtain ⟨embedded, h⟩ := exists_resolveField_none e.references f
  rw [fieldTrace, fieldTrace, h, h]
  cases embedded with
  | false => exact .link (matches_shape _ _ _ _ _) rfl
  | true => exact .embedded (matches_shape _ _ _ _ _) rfl rfl .none

end

/-- **More answers and less on the way can only add embedded collections**: a resolved collection
degrades the same collection resolved over a source that answers at least as much, with no more on
the way to it. Nothing else changes, at any depth; without a source nothing changes at all. -/
theorem resolve_degrades {source source' : Option Source}
    (hsource : Option.Rel Source.ExtendedBy source source') {path path' : List String}
    (hpath : path' ⊆ path) (c : Collection) (e : Entry) :
    (resolve source path c e).value.Degrades (resolve source' path' c e).value := by
  cases hsource with
  | none => exact degrades_of_none path path' c e
  | some hs => exact degrades_of_extendedBy hs e path path' hpath c

/-! ### Novels whose publisher is known after all, and posts below their authors -/

namespace Sample

/-- The store with the publisher of the novels. -/
def richer : Source :=
  { source with store := fun id =>
      if id = "Presses" then .document (Collection.toValue ⟨"Presses", none, []⟩) else store id }

lemma extendedBy_richer : source.ExtendedBy richer := by
  refine ⟨fun h => h, fun id c hc => ?_⟩
  have hid : id ≠ "Presses" := by
    rintro rfl
    cases hc
  change (if id = "Presses" then _ else store id : Outcome).answer source.client id = .found c
  rw [if_neg hid]
  exact hc

end Sample

theorem resolve_degrades_sample :
    Option.Rel Source.ExtendedBy (some Sample.source) (some Sample.richer) ∧
      Sample.novelsTree.Degrades
        (resolve (some Sample.richer) [] Sample.novels Sample.novelsEntry).value ∧
      [] ⊆ ["Authors"] ∧
      (resolve (some Sample.source) ["Authors"] Sample.posts Sample.entry).value.Degrades
        Sample.tree := by
  have hsource : Option.Rel Source.ExtendedBy (some Sample.source) (some Sample.richer) :=
    .some Sample.extendedBy_richer
  have hanswers := resolve_degrades hsource (List.Subset.refl []) Sample.novels Sample.novelsEntry
  have hpath : [] ⊆ ["Authors"] := List.nil_subset _
  have hway := resolve_degrades (.some (.refl Sample.source)) hpath Sample.posts Sample.entry
  rw [Sample.resolve_novels] at hanswers
  rw [Sample.resolve_posts] at hway
  exact ⟨hsource, hanswers, hpath, hway⟩

end WidgetContracts
