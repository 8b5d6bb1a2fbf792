/-
What resolving leaves: the shape, the records written and the collections asked for.

* `Refusal`: why a reference stays a link although a directive asks to embed it, with the wording of
  its warning.
* `Source.ReferenceTrace`, `Source.reference_trace`: following a reference finds the collection that
  it leads to and leaves no record, or ends in one refusal.
* `Source.FieldTrace`, `Source.resolveField_trace`: the three ways in which resolving a field can
  end.
* `Source.Resolves.resolveField_eq`: what a reference that resolves leaves.
* `Entry.ind`: a property of all entries, from the entries of the embedded collections.
* `resolve_records`, `resolve_asked`: the trace of a collection is made of those of its fields.
-/
import WidgetContracts.Proofs.Resolve.Field

namespace WidgetContracts

/-- A sequence of steps, with its trace. -/
lemma Traced.bind_eq {α β : Type} (t : Traced α) (f : α → Traced β) :
    t >>= f =
      ⟨(f t.value).value, t.records ++ (f t.value).records, t.asked ++ (f t.value).asked⟩ := rfl

/-- One directive at most counts for a field. -/
lemma Field.Requested.unique {f : Field} {ds : List Directive} {d d' : Directive}
    (h : f.Requested ds d) (h' : f.Requested ds d') : d = d' := by
  have hlast := directiveFor?_eq_some_iff.mpr h.2.1
  rw [directiveFor?_eq_some_iff.mpr h'.2.1] at hlast
  exact (Option.some.inj hlast).symm

/-! ### Refusals -/

/-- Why a reference stays a link although a directive asks to embed it. -/
inductive Refusal where
  | noTarget
  | recursive (target : String)
  | unknown (target : String)
  | late (target : String)
  | failed (target reason : String)

namespace Refusal

/-- What is said about the field with a given key. -/
def message (key : String) : Refusal → String
  | noTarget => s!"Field '{key}' has no referenced collection, not embedding"
  | recursive t => s!"Field '{key}' would embed {t} recursively, keeping it as a reference"
  | unknown t => s!"Referenced collection {t} not found for '{key}'"
  | late t => s!"Timed out fetching referenced collection {t} for '{key}'"
  | failed t reason => s!"Failed to fetch referenced collection {t} for '{key}': {reason}"

/-- The collection to which the reference was followed in vain. -/
def followed : Refusal → Option String
  | noTarget | recursive _ => none
  | unknown t | late t | failed t _ => some t

/-- The warning about the field with a given key in the collection `owner`. -/
def record (owner key : String) (r : Refusal) : Record := .warning owner (r.message key)

end Refusal

/-! ### Following a reference -/

namespace Source

/-- What following the reference in a field leaves where a directive asks to embed it: the
collection to which the reference leads, or one refusal. The store is asked at most once, and only
if the reference may be followed. -/
inductive ReferenceTrace (s : Source) (owner : String) (path : List String) (f : Field)
    (d : Directive) : Traced (Option (String × Collection)) → Prop
  | found {t : String} {c : Collection} (leads : f.LeadsTo path d t)
      (found : (s.ask t).value = .found c) : ReferenceTrace s owner path f d ⟨some (t, c), [], [t]⟩
  | refused {r : Refusal} (leads : ∀ t, f.LeadsTo path d t ↔ r.followed = some t)
      (missed : ∀ t c, f.LeadsTo path d t → (s.ask t).value ≠ .found c) :
      ReferenceTrace s owner path f d
        ⟨none, [r.record owner f.key], if s.hasNoTime then [] else r.followed.toList⟩

/-- A refusal without asking the store. -/
lemma ReferenceTrace.logging {s : Source} {owner : String} {path : List String} {f : Field}
    {d : Directive} {r : Refusal} (hr : r.followed = none) (hoff : ∀ t, ¬f.LeadsTo path d t) :
    s.ReferenceTrace owner path f d (Traced.logging (r.record owner f.key) none) := by
  have hleads : ∀ t, f.LeadsTo path d t ↔ r.followed = some t := by simp [hr, hoff]
  have h : s.ReferenceTrace owner path f d
      ⟨none, [r.record owner f.key], if s.hasNoTime then [] else r.followed.toList⟩ :=
    .refused hleads fun t _ ht => absurd ht (hoff t)
  rw [hr] at h
  simpa [Traced.logging] using h

/-- Following a reference either finds a collection or is refused. -/
lemma reference_trace (s : Source) (owner : String) (path : List String) (f : Field)
    (d : Directive) : s.ReferenceTrace owner path f d (s.reference owner path f d) := by
  rw [reference]
  by_cases hempty : f.target.getD "" = ""
  · rw [if_pos hempty]
    refine .logging (r := .noTarget) rfl ?_
    rintro t ⟨ht, hne, -⟩
    rw [ht] at hempty
    exact hne hempty
  rw [if_neg hempty]
  obtain ⟨u, hu⟩ : ∃ u, f.target = some u := by
    cases hf : f.target with
    | none => rw [hf] at hempty; exact absurd rfl hempty
    | some u => exact ⟨u, rfl⟩
  rw [hu, Option.getD_some] at hempty ⊢
  by_cases hon : u ∈ path ∧ d.nested ≠ []
  · rw [if_pos (by simpa using hon)]
    refine .logging (r := .recursive u) rfl ?_
    rintro t ⟨ht, -, hoff⟩
    rw [hu, Option.some.injEq] at ht
    exact hoff (ht ▸ hon)
  rw [if_neg (by simpa using hon)]
  -- from here on the store is asked for `u`, so that every refusal has followed the reference
  have hleads : ∀ t, f.LeadsTo path d t ↔ some u = some t := by
    intro t
    rw [Field.LeadsTo, hu]
    refine ⟨fun h => h.1, fun h => ?_⟩
    obtain rfl := Option.some.inj h
    exact ⟨rfl, hempty, hon⟩
  have hmissed : ∀ r : Refusal, r.followed = some u → (∀ c, (s.ask u).value ≠ .found c) →
      s.ReferenceTrace owner path f d
        ⟨none, [] ++ [r.record owner f.key], (if s.hasNoTime then [] else [u]) ++ []⟩ := by
    intro r hr hask
    rw [List.append_nil]
    have hmiss : ∀ t c, f.LeadsTo path d t → (s.ask t).value ≠ .found c := by
      intro t c ht
      obtain rfl := Option.some.inj ((hleads t).mp ht)
      exact hask c
    have h : s.ReferenceTrace owner path f d
        ⟨none, [r.record owner f.key], if s.hasNoTime then [] else r.followed.toList⟩ :=
      .refused (by rwa [hr]) hmiss
    rw [hr] at h
    exact h
  rw [Traced.bind_eq, ask_records, ask_asked]
  cases hask : (s.ask u).value with
  | found c =>
      rw [hasNoTime_eq_false_of_ask hask]
      exact .found ((hleads u).mpr rfl) hask
  | unknown => exact hmissed (.unknown u) rfl (by simp [hask])
  | late => exact hmissed (.late u) rfl (by simp [hask])
  | failed fault => exact hmissed (.failed u fault.message) rfl (by simp [hask])

/-! ### Resolving a field -/

/-- What resolving a field leaves: nothing is asked for, or a refusal keeps the reference a link, or
the collection is embedded with all that its own resolving leaves. -/
inductive FieldTrace (s : Source) (owner : String) (path : List String) (ds : List Directive)
    (f : Field) : Traced (FieldShape CollectionShape) → Prop
  | link (unasked : ∀ d, ¬f.Requested ds d) :
      FieldTrace s owner path ds f ⟨f.shape false none, [], []⟩
  | refused {d : Directive} {r : Refusal} (requested : f.Requested ds d)
      (leads : ∀ t, f.LeadsTo path d t ↔ r.followed = some t)
      (missed : ∀ t c, f.LeadsTo path d t → (s.ask t).value ≠ .found c) :
      FieldTrace s owner path ds f ⟨f.shape false none, [r.record owner f.key],
        if s.hasNoTime then [] else r.followed.toList⟩
  | embedded {d : Directive} {t : String} {c : Collection} {sub : Traced CollectionShape}
      (resolves : s.Resolves path ds f d t c)
      (inside : resolve (some s) path c (nestedEntry (orElse c.id t) d) = sub) :
      FieldTrace s owner path ds f ⟨f.shape true (some sub.value), sub.records, t :: sub.asked⟩

/-- Every field is resolved in one of the three ways. -/
theorem resolveField_trace (s : Source) (owner : String) (path : List String)
    (ds : List Directive) (f : Field) :
    s.FieldTrace owner path ds f (resolveField (some s) owner path ds f) := by
  cases hlast : directiveFor? f.key ds with
  | none =>
      rw [resolveField_of_none hlast]
      refine .link fun d hreq => ?_
      rw [directiveFor?_eq_some_iff.mpr hreq.2.1] at hlast
      cases hlast
  | some d =>
      rw [resolveField_of_some hlast, resolveUnder]
      by_cases hask : f.isEmbeddingOf d = true
      · obtain ⟨hrefers, hmode⟩ := Field.isEmbeddingOf_iff.mp hask
        have hreq : f.Requested ds d := ⟨hrefers, directiveFor?_eq_some_iff.mp hlast, hmode⟩
        have htrace := s.reference_trace owner path f d
        rw [if_pos hask]
        generalize s.reference owner path f d = followed at htrace ⊢
        cases htrace with
        | found leads found =>
            simpa [Traced.bind_eq] using FieldTrace.embedded ⟨hreq, leads, found⟩ rfl
        | refused leads missed =>
            simpa [Traced.bind_eq] using FieldTrace.refused hreq leads missed
      · rw [if_neg hask]
        refine .link fun x hreq => hask (Field.isEmbeddingOf_iff.mpr ⟨hreq.1, ?_⟩)
        have hx := directiveFor?_eq_some_iff.mpr hreq.2.1
        rw [hlast] at hx
        exact Option.some.inj hx ▸ hreq.2.2

/-- Resolving a field ends in one way only. -/
lemma Resolves.unique {s : Source} {path : List String} {ds : List Directive} {f : Field}
    {d d' : Directive} {t t' : String} {c c' : Collection} (h : s.Resolves path ds f d t c)
    (h' : s.Resolves path ds f d' t' c') : d = d' ∧ t = t' ∧ c = c' := by
  obtain rfl : d = d' := h.requested.unique h'.requested
  obtain rfl : t = t' := Option.some.inj (h.leads.target.symm.trans h'.leads.target)
  exact ⟨rfl, rfl, Answer.found.inj (h.found.symm.trans h'.found)⟩

/-- A reference that resolves leaves the collection behind it with all that its own resolving
leaves. -/
lemma Resolves.resolveField_eq {s : Source} {owner : String} {path : List String}
    {ds : List Directive} {f : Field} {d : Directive} {t : String} {c : Collection}
    {sub : Traced CollectionShape} (h : s.Resolves path ds f d t c)
    (hsub : resolve (some s) path c (nestedEntry (orElse c.id t) d) = sub) :
    resolveField (some s) owner path ds f =
      ⟨f.shape true (some sub.value), sub.records, t :: sub.asked⟩ := by
  have htrace := s.resolveField_trace owner path ds f
  generalize resolveField (some s) owner path ds f = resolved at htrace ⊢
  cases htrace with
  | link unasked => exact absurd h.requested (unasked d)
  | refused requested leads missed =>
      obtain rfl := h.requested.unique requested
      exact absurd h.found (missed t c h.leads)
  | embedded resolves inside =>
      obtain ⟨rfl, rfl, rfl⟩ := h.unique resolves
      rw [← hsub, ← inside]

end Source

/-! ### Resolving a collection -/

/-- The induction principle of nested directives: a property holds of every entry once it is
inherited from the entries of the collections that its directives embed. -/
@[elab_as_elim]
theorem Entry.ind {P : Entry → Prop}
    (h : ∀ e : Entry, (∀ d ∈ e.references, ∀ id, P (nestedEntry id d)) → P e) (e : Entry) :
    P e := by
  have hall : ∀ ds : List Directive, ∀ d ∈ ds, ∀ id, P (nestedEntry id d) := by
    intro ds
    exact @Directive.rec_1
      (fun d => ∀ id, P (nestedEntry id d))
      (fun ds => ∀ d ∈ ds, ∀ id, P (nestedEntry id d))
      (fun _ _ _ ih id => h _ ih)
      (fun d hd => absurd hd (by simp))
      (fun _ _ ihd ihr d hd => by
        rcases List.mem_cons.mp hd with rfl | hd'
        · exact ihd
        · exact ihr d hd')
      ds
  exact h e (hall e.references)

lemma Field.Requested.mem {f : Field} {ds : List Directive} {d : Directive}
    (h : f.Requested ds d) : d ∈ ds := by
  obtain ⟨-, ⟨before, after, rfl, -⟩, -⟩ := h
  exact List.mem_append_right before List.mem_cons_self

section

variable (source : Option Source) (path : List String) (c : Collection) (e : Entry)

/-- A field of a collection, resolved with the collection put on the way to it. -/
def fieldTrace (f : Field) : Traced (FieldShape CollectionShape) :=
  resolveField source (orElse c.id e.collectionId) (orElse c.id e.collectionId :: path)
    e.references f

lemma resolve_fields_eq :
    (resolve source path c e).value.fields =
      c.fields.map fun f => (fieldTrace source path c e f).value := by
  rw [resolve_value]
  rfl

lemma resolve_records :
    (resolve source path c e).records =
      c.fields.flatMap fun f => (fieldTrace source path c e f).records := by
  rw [resolve_eq, Traced.bind_records, Traced.traverse_records, Traced.pure_records,
    List.append_nil]
  rfl

lemma resolve_asked :
    (resolve source path c e).asked =
      c.fields.flatMap fun f => (fieldTrace source path c e f).asked := by
  rw [resolve_eq, Traced.bind_asked, Traced.traverse_asked, Traced.pure_asked, List.append_nil]
  rfl

/-- Every field of a resolved collection is resolved in one of the three ways, under the entry of
the shape. -/
lemma fieldTrace_trace (s : Source) (f : Field) :
    s.FieldTrace (resolve (some s) path c e).value.collectionId
      ((resolve (some s) path c e).value.collectionId :: path)
      (resolve (some s) path c e).value.entry.references f (fieldTrace (some s) path c e f) := by
  rw [resolve_collectionId, resolve_entry]
  exact s.resolveField_trace _ _ _ f

end

end WidgetContracts
