/-
What becomes of the requests to embed a reference.

* `CollectionShape.requests`, `CollectionShape.refuses`: the entry of a shape asks to embed the
  reference in a field, and may ask in vain.
* `Record.isAboutFetch`: a warning tells of a fetch in vain.
* `Balanced`: requests, embedded fields, warnings and fetches are in balance; what is put together
  of balanced parts is balanced.
* `balanced_resolve`: resolving a collection keeps the balance.
* `requests_balanced`: no request is dropped in silence, and each leads to one fetch at most.
-/
import Mathlib.Data.List.Perm.Basic
import WidgetContracts.Proofs.Resolve.Nodes
import WidgetContracts.Proofs.Resolve.Traces
import WidgetContracts.Proofs.Shape.Census

namespace WidgetContracts

/-! ### Requests -/

namespace CollectionShape

/-- The entry of a shape asks to embed the reference in a field: the last directive for the field
does. -/
def requests (s : CollectionShape) (f : FieldShape CollectionShape) : Bool :=
  f.isReference &&
    ((s.entry.references.filter (·.fieldName == f.key)).getLast?).any (·.mode == .embed)

/-- A field is embedded, whatever shape owns it. -/
def embeds (_ : CollectionShape) (f : FieldShape CollectionShape) : Bool := f.embedded

/-- The entry of a shape asks in vain to embed the reference in a field. -/
def refuses (s : CollectionShape) (f : FieldShape CollectionShape) : Bool :=
  s.requests f && !f.embedded

end CollectionShape

lemma directiveFor?_eq_getLast? (key : String) (ds : List Directive) :
    directiveFor? key ds = (ds.filter (·.fieldName == key)).getLast? := by
  induction ds with
  | nil => rfl
  | cons d r ih =>
      rw [directiveFor?, ih, List.filter_cons]
      by_cases h : (d.fieldName == key) = true
      · rw [if_pos h, if_pos h, List.getLast?_cons]
        cases (r.filter (·.fieldName == key)).getLast? <;> rfl
      · rw [if_neg h, if_neg h]
        cases (r.filter (·.fieldName == key)).getLast? <;> rfl

/-- A resolved field is requested exactly when the directives request the field of the collection.
-/
lemma requests_shape_iff {s : CollectionShape} {f : Field} {embedded : Bool}
    {shape : Option CollectionShape} :
    s.requests (f.shape embedded shape) = true ↔ ∃ d, f.Requested s.entry.references d := by
  have hdirective : ((s.entry.references.filter (·.fieldName == f.key)).getLast?).any
      (·.mode == .embed) = true ↔ ∃ d, IsLastFor f.key s.entry.references d ∧ d.mode = .embed := by
    rw [← directiveFor?_eq_getLast?, Option.any_eq_true]
    simp only [directiveFor?_eq_some_iff, beq_iff_eq]
  rw [CollectionShape.requests, Bool.and_eq_true, FieldShape.isReference]
  change (categoryOf f.key (some f.type)).isReference = true ∧ _ ↔ _
  rw [Field.isReference_categoryOf_iff]
  refine (and_congr_right' hdirective).trans ?_
  simp only [Field.Requested, exists_and_left]

/-! ### Warnings about fetches -/

/-- How the warnings begin that tell of a fetch in vain. -/
def fetchWarnings : List String :=
  ["Referenced collection ", "Timed out fetching referenced collection ",
    "Failed to fetch referenced collection "]

/-- Whether a record tells of a fetch in vain. -/
def Record.isAboutFetch (r : Record) : Bool :=
  fetchWarnings.any fun head => head.toList.isPrefixOf r.message.toList

lemma prefix_append {head : List Char} {x y : String} (h : head <+: x.toList) :
    head <+: (x ++ y).toList := by
  rw [String.toList_append]
  exact h.trans (List.prefix_append _ _)

lemma isAboutFetch_of_prefix {r : Record} {head : String} (hmem : head ∈ fetchWarnings)
    (h : head.toList <+: r.message.toList) : r.isAboutFetch = true :=
  List.any_eq_true.mpr ⟨head, hmem, List.isPrefixOf_iff_prefix.mpr h⟩

lemma not_isAboutFetch_of_prefix {r : Record} (h : "Field '".toList <+: r.message.toList) :
    r.isAboutFetch = false := by
  obtain ⟨rest, hrest⟩ := h
  have hhead : "Field '".toList = ['F', 'i', 'e', 'l', 'd', ' ', '\''] := rfl
  rw [Record.isAboutFetch, ← hrest, hhead]
  rfl

/-- A warning tells of a fetch in vain exactly when the reference was followed. -/
lemma Refusal.isAboutFetch_record (r : Refusal) (owner key : String) :
    (r.record owner key).isAboutFetch = r.followed.isSome := by
  cases r with
  | noTarget =>
      exact not_isAboutFetch_of_prefix (prefix_append (prefix_append List.prefix_rfl))
  | recursive t =>
      refine not_isAboutFetch_of_prefix ?_
      exact prefix_append (prefix_append (prefix_append (prefix_append List.prefix_rfl)))
  | unknown t =>
      refine isAboutFetch_of_prefix (.head _) ?_
      exact prefix_append (prefix_append (prefix_append (prefix_append List.prefix_rfl)))
  | late t =>
      refine isAboutFetch_of_prefix (.tail _ (.head _)) ?_
      exact prefix_append (prefix_append (prefix_append (prefix_append List.prefix_rfl)))
  | failed t reason =>
      refine isAboutFetch_of_prefix (.tail _ (.tail _ (.head _))) ?_
      exact prefix_append (prefix_append (prefix_append (prefix_append (prefix_append
        List.prefix_rfl))))

/-! ### Balance -/

/-- A record is the warning about a field of a shape: it names the shape as the collection that it
is about, and the field in its message. -/
def IsWarned (x : CollectionShape × FieldShape CollectionShape) (w : Record) : Prop :=
  ∃ r : Refusal, w = r.record x.1.collectionId x.2.key

/-- The fields of shapes that are picked by a property. -/
abbrev Pick := (CollectionShape → FieldShape CollectionShape → Bool) →
  List (CollectionShape × FieldShape CollectionShape)

/-- Fields are in balance with records and fetches: every request is embedded or has a record, every
field refused has a record of its own, up to the order, and with time there is a fetch for each
field embedded and each record that tells of a fetch. -/
structure Balanced (s : Source) (fields : Pick) (records : List Record) (asked : List String) :
    Prop where
  requests : (fields CollectionShape.requests).length =
    (fields CollectionShape.embeds).length + records.length
  warned : ∃ ws, ws.Perm records ∧ List.Forall₂ IsWarned (fields CollectionShape.refuses) ws
  asked : s.hasNoTime = false →
    asked.length = (fields CollectionShape.embeds).length + records.countP Record.isAboutFetch

namespace Balanced

variable {s : Source}

lemma nil (s : Source) : Balanced s (fun _ => []) [] [] :=
  ⟨rfl, ⟨[], .nil, .nil⟩, fun _ => rfl⟩

lemma append {f g : Pick} {rf rg : List Record} {af ag : List String} (hf : Balanced s f rf af)
    (hg : Balanced s g rg ag) : Balanced s (fun p => f p ++ g p) (rf ++ rg) (af ++ ag) := by
  obtain ⟨wf, hpermf, hwf⟩ := hf.warned
  obtain ⟨wg, hpermg, hwg⟩ := hg.warned
  refine ⟨?_, ⟨wf ++ wg, hpermf.append hpermg, List.rel_append hwf hwg⟩, fun htime => ?_⟩
  · have := hf.requests
    have := hg.requests
    simp only [List.length_append]
    omega
  · have := hf.asked htime
    have := hg.asked htime
    simp only [List.length_append, List.countP_append]
    omega

/-- Balance does not depend on the order of the fields. -/
lemma of_perm {f g : Pick} {records : List Record} {asked : List String}
    (h : Balanced s f records asked) (hperm : ∀ p, (g p).Perm (f p)) :
    Balanced s g records asked := by
  obtain ⟨ws, hws, hwarned⟩ := h.warned
  obtain ⟨vs, hvs, hvw⟩ := List.perm_comp_forall₂ (hperm _) hwarned
  refine ⟨?_, ⟨vs, hvw.trans hws, hvs⟩, fun htime => ?_⟩
  · rw [(hperm _).length_eq, (hperm _).length_eq]
    exact h.requests
  · rw [(hperm _).length_eq]
    exact h.asked htime

/-- What is put together of balanced parts is balanced. -/
lemma flatMap {α : Type} {fields : α → Pick} {records : α → List Record} {asked : α → List String}
    {l : List α} (h : ∀ a ∈ l, Balanced s (fields a) (records a) (asked a)) :
    Balanced s (fun p => l.flatMap fun a => fields a p) (l.flatMap records) (l.flatMap asked) := by
  induction l with
  | nil => exact nil s
  | cons a r ih =>
      rw [List.forall_mem_cons] at h
      exact h.1.append (ih h.2)

end Balanced

/-! ### Resolving keeps the balance -/

section

variable {s : Source} {root : CollectionShape} {g : FieldShape CollectionShape}

/-- What a field of a shape adds by itself. -/
def ownField (root : CollectionShape) (g : FieldShape CollectionShape) : Pick := fun p =>
  if p root g then [(root, g)] else []

lemma ownField_of_true {p : CollectionShape → FieldShape CollectionShape → Bool}
    (h : p root g = true) : ownField root g p = [(root, g)] := by
  rw [ownField, if_pos h]

lemma ownField_of_false {p : CollectionShape → FieldShape CollectionShape → Bool}
    (h : p root g = false) : ownField root g p = [] := by
  rw [ownField, if_neg (by simp [h])]

/-- A field that is neither requested nor embedded leaves nothing. -/
lemma balanced_link (hrequests : root.requests g = false) (hembedded : g.embedded = false) :
    Balanced s (ownField root g) [] [] := by
  have hrefuses : root.refuses g = false := by
    rw [CollectionShape.refuses, hrequests, Bool.false_and]
  refine ⟨?_, ⟨[], .nil, ?_⟩, fun _ => ?_⟩
  · rw [ownField_of_false hrequests, ownField_of_false hembedded]
    rfl
  · rw [ownField_of_false hrefuses]
    exact .nil
  · rw [ownField_of_false hembedded]
    rfl

/-- A field that is requested and not embedded leaves its warning, and a fetch if the reference was
followed. -/
lemma balanced_refused (hrequests : root.requests g = true) (hembedded : g.embedded = false)
    (r : Refusal) : Balanced s (ownField root g) [r.record root.collectionId g.key]
      (if s.hasNoTime then [] else r.followed.toList) := by
  have hrefuses : root.refuses g = true := by
    rw [CollectionShape.refuses, hrequests, hembedded]
    rfl
  refine ⟨?_, ⟨_, .refl _, ?_⟩, fun htime => ?_⟩
  · rw [ownField_of_true hrequests, ownField_of_false hembedded]
    rfl
  · rw [ownField_of_true hrefuses]
    exact .cons ⟨r, rfl⟩ .nil
  · rw [ownField_of_false hembedded, htime, List.countP_singleton, r.isAboutFetch_record]
    cases r.followed with
    | none => rfl
    | some t => rfl

/-- A field that is requested and embedded leaves a fetch. -/
lemma balanced_embedded (hrequests : root.requests g = true) (hembedded : g.embedded = true)
    (t : String) : Balanced s (ownField root g) [] [t] := by
  have hrefuses : root.refuses g = false := by
    rw [CollectionShape.refuses, hembedded, Bool.not_true, Bool.and_false]
  refine ⟨?_, ⟨[], .nil, ?_⟩, fun _ => ?_⟩
  · rw [ownField_of_true hrequests, ownField_of_true hembedded]
    rfl
  · rw [ownField_of_false hrefuses]
    exact .nil
  · rw [ownField_of_true hembedded]
    rfl

end

/-- The fields of a resolved collection with what resolving it leaves. -/
def InBalance (s : Source) (t : Traced CollectionShape) : Prop :=
  Balanced s (fun p => t.value.fieldsWhere p) t.records t.asked

/-- The step: what resolving a field leaves is in balance, if the collection embedded in it is. -/
lemma balanced_fieldsAt {s : Source} {root : CollectionShape} {path : List String} {f : Field}
    {t : Traced (FieldShape CollectionShape)}
    (ht : s.FieldTrace root.collectionId path root.entry.references f t)
    (ih : ∀ d ∈ root.entry.references, ∀ (id : String) (path : List String) (c : Collection),
      InBalance s (resolve (some s) path c (nestedEntry id d))) :
    Balanced s (fun p => root.fieldsAt p t.value) t.records t.asked := by
  have hnone : ∀ (p : CollectionShape → FieldShape CollectionShape → Bool) (embedded : Bool),
      root.fieldsAt p (f.shape embedded none) = ownField root (f.shape embedded none) p :=
    fun _ _ => List.append_nil _
  cases ht with
  | link unasked =>
      have hno : root.requests (f.shape false none) = false := by
        rw [← Bool.not_eq_true, requests_shape_iff]
        exact fun ⟨d, hd⟩ => unasked d hd
      simp only [hnone]
      exact balanced_link hno rfl
  | @refused d r requested leads missed =>
      simp only [hnone]
      exact balanced_refused (requests_shape_iff.mpr ⟨d, requested⟩) rfl r
  | @embedded d u c sub resolves inside =>
      have hsub : InBalance s sub := inside ▸ ih d resolves.requested.mem _ _ c
      have hown := balanced_embedded (s := s) (g := f.shape true (some sub.value))
        (requests_shape_iff.mpr ⟨d, resolves.requested⟩) rfl u
      refine (hown.append hsub).of_perm fun p => ?_
      rw [CollectionShape.fieldsAt, shape_of_field, Option.toList_some, List.flatMap_singleton]
      exact .refl _

/-- Resolving a collection keeps the balance: by induction on the directives, field by field. -/
theorem balanced_resolve (s : Source) (e : Entry) :
    ∀ (path : List String) (c : Collection), InBalance s (resolve (some s) path c e) := by
  induction e using Entry.ind with
  | _ e ih =>
      intro path c
      have hinside : ∀ d ∈ (resolve (some s) path c e).value.entry.references, ∀ id path' c',
          InBalance s (resolve (some s) path' c' (nestedEntry id d)) := by
        rw [resolve_entry]
        exact ih
      have hstep : ∀ f ∈ c.fields,
          let resolved := fieldTrace (some s) path c e f
          Balanced s (fun p => (resolve (some s) path c e).value.fieldsAt p resolved.value)
            resolved.records resolved.asked :=
        fun f _ => balanced_fieldsAt (fieldTrace_trace path c e s f) hinside
      rw [InBalance, resolve_records, resolve_asked]
      refine (Balanced.flatMap hstep).of_perm fun p => ?_
      have hperm := CollectionShape.fieldsWhere_perm p (resolve (some s) path c e).value
      rwa [resolve_fields_eq, List.flatMap_map] at hperm

/-! ### Without time -/

section

variable {s : Source}

lemma Source.hasNoTime_of_le {t : Float} (ht : s.timeout = some t) (hle : t ≤ 0) :
    s.hasNoTime = true := by
  rw [hasNoTime, ht]
  simpa using hle

/-- Without time no reference resolves. -/
lemma not_resolves_of_hasNoTime (hs : s.hasNoTime = true) {path : List String}
    {ds : List Directive} {f : Field} {d : Directive} {t : String} {c : Collection} :
    ¬s.Resolves path ds f d t c := by
  intro h
  rw [Source.hasNoTime_eq_false_of_ask h.found] at hs
  cases hs

/-- Without time nothing is asked for, and every field stays a link. -/
lemma link_of_hasNoTime (hs : s.hasNoTime = true) {owner : String} {path : List String}
    {ds : List Directive} {f : Field} {t : Traced (FieldShape CollectionShape)}
    (ht : s.FieldTrace owner path ds f t) : t.value = f.shape false none ∧ t.asked = [] := by
  cases ht with
  | link unasked => exact ⟨rfl, rfl⟩
  | refused requested leads missed => exact ⟨rfl, by rw [if_pos hs]⟩
  | embedded resolves inside => exact absurd resolves (not_resolves_of_hasNoTime hs)

/-- Without time the tree is its root, none of whose fields is embedded. -/
lemma fieldsWhere_of_hasNoTime (hs : s.hasNoTime = true) (path : List String) (c : Collection)
    (e : Entry) (p : CollectionShape → FieldShape CollectionShape → Bool) :
    (resolve (some s) path c e).value.fieldsWhere p =
      ((resolve (some s) path c e).value.fields.filter (p (resolve (some s) path c e).value)).map
        (Prod.mk (resolve (some s) path c e).value) := by
  have hinside : ((resolve (some s) path c e).value.fields.flatMap fun f =>
      f.shape.toList.flatMap (CollectionShape.fieldsWhere p)) = [] := by
    rw [resolve_fields_eq, List.flatMap_map, List.flatMap_eq_nil_iff]
    intro f _
    rw [(link_of_hasNoTime hs (fieldTrace_trace path c e s f)).1]
    rfl
  rw [CollectionShape.fieldsWhere_eq, hinside, List.append_nil]

end

/-! ### The account of a run -/

/-- Records that are the warnings about fields are warnings. -/
lemma level_of_forall₂_isWarned {xs : List (CollectionShape × FieldShape CollectionShape)}
    {ws : List Record} (h : List.Forall₂ IsWarned xs ws) : ∀ w ∈ ws, w.level = .warning := by
  induction h with
  | nil => simp
  | cons hw _ ih =>
      obtain ⟨r, rfl⟩ := hw
      rw [List.forall_mem_cons]
      exact ⟨rfl, ih⟩

/-- **No request is dropped in silence, and each leads to one fetch at most**: over all shapes of
the tree of a resolved collection, the requests to embed a reference are as many as the embedded
fields and the warnings together; each field that is refused has a warning of its own, which names
the shape that owns the field; and with time the fetches are as many as the embedded fields and the
warnings of a fetch in vain together. Without time nothing is asked for or embedded, and the
requests of the root are as many as the warnings. -/
theorem requests_balanced (s : Source) (c : Collection) (e : Entry) :
    let run := resolve (some s) [] c e
    let requested := run.value.fieldsWhere CollectionShape.requests
    let embedded := run.value.fieldsWhere fun _ f => f.embedded
    let refused := run.value.fieldsWhere fun t f => t.requests f && !f.embedded
    (∀ w ∈ run.records, w.level = .warning) ∧
      requested.length = embedded.length + run.records.length ∧
      (∃ ws, ws.Perm run.records ∧ List.Forall₂ IsWarned refused ws) ∧
      (s.GivesTime →
        run.asked.length = embedded.length + run.records.countP Record.isAboutFetch) ∧
      ∀ t, s.timeout = some t → t ≤ 0 →
        run.asked = [] ∧ embedded = [] ∧
          (run.value.fields.filter run.value.requests).length = run.records.length := by
  intro run requested embedded refused
  have hbalance : InBalance s run := balanced_resolve s e [] c
  obtain ⟨ws, hperm, hwarned⟩ := hbalance.warned
  refine ⟨?_, hbalance.requests, ⟨ws, hperm, hwarned⟩, ?_, ?_⟩
  · intro w hw
    exact level_of_forall₂_isWarned hwarned w (hperm.mem_iff.mpr hw)
  · intro hs
    exact hbalance.asked hs.hasNoTime_eq_false
  · intro t ht hle
    have hs := Source.hasNoTime_of_le ht hle
    have hfields := fieldsWhere_of_hasNoTime hs [] c e
    have hembedded : embedded = [] := by
      rw [show embedded = _ from hfields _, List.map_eq_nil_iff, List.filter_eq_nil_iff,
        resolve_fields_eq]
      intro g hg
      obtain ⟨f, -, rfl⟩ := List.mem_map.mp hg
      rw [(link_of_hasNoTime hs (fieldTrace_trace [] c e s f)).1]
      exact Bool.false_ne_true
    refine ⟨?_, hembedded, ?_⟩
    · rw [show run.asked = _ from resolve_asked _ _ _ _, List.flatMap_eq_nil_iff]
      exact fun f _ => (link_of_hasNoTime hs (fieldTrace_trace [] c e s f)).2
    · have hcount : requested.length = embedded.length + run.records.length := hbalance.requests
      rw [hembedded, List.length_nil, Nat.zero_add, show requested = _ from hfields _,
        List.length_map] at hcount
      exact hcount

/-! ### Novels, with four requests of which one is granted -/

namespace Sample

/-- Novels refer to their author, to a publisher that the store does not know, to other novels, and
to a series that is not said to be anywhere. -/
def novels : Collection :=
  ⟨"Novels", none,
    [⟨"author", none, "REFERENCE", false, some "Authors"⟩,
      ⟨"publisher", none, "REFERENCE", false, some "Presses"⟩,
      ⟨"sequels", none, "MULTI_REFERENCE", false, some "Novels"⟩,
      ⟨"series", none, "REFERENCE", false, none⟩]⟩

/-- The author alone is embedded. -/
def authorAlone : Directive := ⟨"author", .embed, []⟩

/-- An entry that asks to embed every reference, and the authors of the sequels with them. -/
def novelsEntry : Entry :=
  ⟨"Novels", "/novels", "slug", [authorAlone, ⟨"publisher", .embed, []⟩,
    ⟨"sequels", .embed, [authorAlone]⟩, ⟨"series", .embed, []⟩], none, some Components.none⟩

/-- The author in a novel. -/
def novelAuthor : CollectionShape :=
  ⟨"Authors", some "Writers", nestedEntry "Authors" authorAlone,
    [⟨"posts", .multiReference, .string, none, false, none⟩]⟩

/-- The resolved novels. -/
def novelsTree : CollectionShape :=
  ⟨"Novels", none, novelsEntry,
    [⟨"author", .reference, .string, none, true, some novelAuthor⟩,
      ⟨"publisher", .reference, .string, none, false, none⟩,
      ⟨"sequels", .multiReference, .string, none, false, none⟩,
      ⟨"series", .reference, .string, none, false, none⟩]⟩

/-- What is logged about the novels. -/
def novelsWarnings : List Record :=
  [.warning "Novels" "Referenced collection Presses not found for 'publisher'",
    .warning "Novels" "Field 'sequels' would embed Novels recursively, keeping it as a reference",
    .warning "Novels" "Field 'series' has no referenced collection, not embedding"]

lemma resolve_novelAuthor :
    resolve (some source) ["Novels"] authors (nestedEntry "Authors" authorAlone) =
      ⟨novelAuthor, [], []⟩ := by
  rw [resolve_eq]
  rfl

lemma resolves_authorAlone :
    source.Resolves ["Novels"] novelsEntry.references
      ⟨"author", none, "REFERENCE", false, some "Authors"⟩ authorAlone "Authors" authors :=
  ⟨⟨⟨by decide, Or.inl rfl⟩, ⟨[], _, rfl, rfl, by decide⟩, rfl⟩,
    ⟨rfl, by decide, fun h => absurd h.1 (by decide)⟩,
    (Source.ask_found_iff givesTime).mpr answers_authors⟩

/-- Resolving the novels embeds the author, leaves three warnings and asks for two collections. -/
lemma resolve_novels : resolve (some source) [] novels novelsEntry =
    ⟨novelsTree, novelsWarnings, ["Authors", "Presses"]⟩ := by
  have hauthor : resolveField (some source) "Novels" _ _ _ = _ :=
    resolves_authorAlone.resolveField_eq resolve_novelAuthor
  have hfields : Traced.traverse (resolveField (some source) "Novels" ["Novels"]
      novelsEntry.references) novels.fields =
      ⟨novelsTree.fields, novelsWarnings, ["Authors", "Presses"]⟩ := by
    rw [novels, Traced.traverse, hauthor]
    rfl
  rw [resolve_eq]
  change Traced.traverse (resolveField (some source) "Novels" ["Novels"]
      novelsEntry.references) novels.fields >>= _ = _
  rw [hfields]
  rfl

/-- The store, with no time to ask it. -/
def hurried : Source := { source with timeout := some 0 }

end Sample

theorem requests_balanced_sample :
    Sample.source.GivesTime ∧
      (Sample.novelsTree.fieldsWhere CollectionShape.requests).length =
        (Sample.novelsTree.fieldsWhere fun _ f => f.embedded).length +
          Sample.novelsWarnings.length ∧
      ["Authors", "Presses"].length =
        (Sample.novelsTree.fieldsWhere fun _ f => f.embedded).length +
          Sample.novelsWarnings.countP Record.isAboutFetch ∧
      (0 : Float) ≤ 0 ∧
      (resolve (some Sample.hurried) [] Sample.novels Sample.novelsEntry).asked = [] := by
  obtain ⟨-, hrequests, -, hasked, -⟩ :=
    requests_balanced Sample.source Sample.novels Sample.novelsEntry
  have hhurried := (requests_balanced Sample.hurried Sample.novels Sample.novelsEntry).2.2.2.2
  have hzero : (0 : Float) ≤ 0 := by decide
  simp only [Sample.resolve_novels] at hrequests hasked
  exact ⟨Sample.givesTime, hrequests, hasked Sample.givesTime, hzero, (hhurried 0 rfl hzero).1⟩

end WidgetContracts
