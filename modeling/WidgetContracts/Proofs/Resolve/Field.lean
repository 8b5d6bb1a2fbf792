/-
What a single field resolves to.

* `IsLastFor`, `directiveFor?_eq_some_iff`: the directive that counts for a field is the last one
  with its name.
* `Field.isEmbeddingOf_iff`: which fields a directive can embed.
* `Source.reference_eq_some_iff`: when the collection behind a reference can be had.
* `resolveField`, `resolve_eq`: resolving a collection is resolving its fields one by one.
* `resolveField_of_resolves`, `resolveField_of_not_resolves`: the shape of the collection that the
  source answers is put into a field, or the field stays as it is.
* `exists_resolveField_eq`: nothing else about a field changes.
-/
import Mathlib.Tactic.Lemma
import WidgetContracts.Resolve
import WidgetContracts.Proofs.Store.Answers

namespace WidgetContracts

/-! ### Directives -/

/-- A directive is the last one for a field among others. -/
def IsLastFor (key : String) (ds : List Directive) (d : Directive) : Prop :=
  ∃ before after, ds = before ++ d :: after ∧ d.fieldName = key ∧
    ∀ x ∈ after, x.fieldName ≠ key

lemma directiveFor?_eq_none_iff {key : String} {ds : List Directive} :
    directiveFor? key ds = none ↔ ∀ x ∈ ds, x.fieldName ≠ key := by
  induction ds with
  | nil => simp [directiveFor?]
  | cons d r ih =>
      rw [directiveFor?, List.forall_mem_cons, ← ih]
      cases directiveFor? key r with
      | none => simp
      | some x => simp

lemma IsLastFor.cons {key : String} {ds : List Directive} {d : Directive}
    (h : IsLastFor key ds d) (e : Directive) : IsLastFor key (e :: ds) d := by
  obtain ⟨before, after, rfl, hd, hafter⟩ := h
  exact ⟨e :: before, after, rfl, hd, hafter⟩

/-- The directive that counts for a field is the last one with its name. -/
lemma directiveFor?_eq_some_iff {key : String} {ds : List Directive} {d : Directive} :
    directiveFor? key ds = some d ↔ IsLastFor key ds d := by
  constructor
  · intro h
    induction ds with
    | nil => cases h
    | cons e r ih =>
        rw [directiveFor?] at h
        cases hr : directiveFor? key r with
        | some x =>
            rw [hr] at h
            exact (ih (hr.trans h)).cons e
        | none =>
            rw [hr] at h
            by_cases hkey : e.fieldName = key
            · obtain rfl : e = d := by simpa [hkey] using h
              exact ⟨[], r, rfl, hkey, directiveFor?_eq_none_iff.mp hr⟩
            · simp [hkey] at h
  · rintro ⟨before, after, rfl, hd, hafter⟩
    induction before with
    | nil => simp [directiveFor?, directiveFor?_eq_none_iff.mpr hafter, hd]
    | cons e r ih => rw [List.cons_append, directiveFor?, ih]

/-! ### Fields that can be embedded -/

namespace Field

/-- A field refers to other collections: it does not belong to the system, and its type is one of
the two kinds of reference. -/
def Refers (f : Field) : Prop :=
  f.key.toList.head? ≠ some '_' ∧
    (FieldType.ofText? f.type = some .reference ∨
      FieldType.ofText? f.type = some .multiReference)

lemma isReference_categoryOf_iff {f : Field} :
    (categoryOf f.key (some f.type)).isReference = true ↔ f.Refers := by
  rw [Refers, categoryOf]
  by_cases hsys : f.key.toList.head? = some '_'
  · have h : isSystemKey f.key = true := by simp [isSystemKey, hsys, systemMark]
    simp [h, hsys, FieldCategory.isReference]
  · have h : isSystemKey f.key = false := by simpa [isSystemKey, systemMark] using hsys
    rw [h]
    cases ht : FieldType.ofText? f.type with
    | none => simp [ht, FieldCategory.isReference]
    | some t => cases t <;> simp [ht, hsys, FieldType.category, FieldCategory.isReference]

lemma isEmbeddingOf_iff {f : Field} {d : Directive} :
    f.isEmbeddingOf d = true ↔ f.Refers ∧ d.mode = .embed := by
  rw [isEmbeddingOf, Bool.and_eq_true, isReference_categoryOf_iff, beq_iff_eq]

/-- The directives ask to embed the reference in a field: the last one for the field does. -/
def Requested (f : Field) (ds : List Directive) (d : Directive) : Prop :=
  f.Refers ∧ IsLastFor f.key ds d ∧ d.mode = .embed

/-- The reference in a field leads to `t` and may be followed there: where the collection is
already on the way, the directive must ask for nothing further. -/
def LeadsTo (f : Field) (path : List String) (d : Directive) (t : String) : Prop :=
  f.target = some t ∧ t ≠ "" ∧ ¬(t ∈ path ∧ d.nested ≠ [])

lemma LeadsTo.target {f : Field} {path : List String} {d : Directive} {t : String}
    (h : f.LeadsTo path d t) : f.target = some t := h.1

end Field

/-! ### The collection behind a reference -/

/-- The collection behind a reference can be had exactly when the reference may be followed and
asking finds the collection. -/
lemma Source.reference_eq_some_iff {s : Source} {owner : String} {path : List String} {f : Field}
    {d : Directive} {t : String} {r : Collection} :
    (s.reference owner path f d).value = some (t, r) ↔
      f.LeadsTo path d t ∧ (s.ask t).value = .found r := by
  rw [Source.reference, Field.LeadsTo]
  cases htarget : f.target with
  | none => simp [Traced.logging]
  | some u =>
      rw [Option.getD_some, Option.some.injEq]
      by_cases hu : u = ""
      · rw [if_pos hu]
        constructor
        · intro h
          cases h
        · rintro ⟨⟨rfl, ht, -⟩, -⟩
          exact absurd hu ht
      rw [if_neg hu]
      by_cases hon : u ∈ path ∧ d.nested ≠ []
      · rw [if_pos (by simpa using hon)]
        constructor
        · intro h
          cases h
        · rintro ⟨⟨rfl, -, hoff⟩, -⟩
          exact absurd hon hoff
      rw [if_neg (by simpa using hon), Traced.bind_value]
      cases hask : (s.ask u).value with
      | found c =>
          constructor
          · intro h
            obtain ⟨rfl, rfl⟩ := Prod.mk.inj (Option.some.inj h)
            exact ⟨⟨rfl, hu, hon⟩, hask⟩
          · rintro ⟨⟨rfl, -, -⟩, hr⟩
            obtain rfl := Answer.found.inj (hask.symm.trans hr)
            rfl
      | unknown | late | failed =>
          constructor
          · intro h
            cases h
          · rintro ⟨⟨rfl, -, -⟩, hr⟩
            rw [hask] at hr
            cases hr

/-! ### Resolving field by field -/

/-- The field as the directive that counts for it has it resolved. -/
def resolveUnder (source : Option Source) (owner : String) (path : List String) (f : Field)
    (d : Directive) : Traced (FieldShape CollectionShape) :=
  if f.isEmbeddingOf d then
    match source with
    | none => pure (f.shape true none)
    | some s => do
      match ← s.reference owner path f d with
      | none => return f.shape false none
      | some (target, r) =>
        let shape ← resolve source path r (nestedEntry (orElse r.id target) d)
        return f.shape true (some shape)
  else pure (f.shape false none)

/-- The resolved field: without a directive it stays as it is. -/
def resolveField (source : Option Source) (owner : String) (path : List String)
    (ds : List Directive) (f : Field) : Traced (FieldShape CollectionShape) :=
  match directiveFor? f.key ds with
  | none => pure (f.shape false none)
  | some d => resolveUnder source owner path f d

section

variable {source : Option Source} {owner : String} {path : List String} {ds : List Directive}
  {f : Field}

lemma resolveField_of_none (h : directiveFor? f.key ds = none) :
    resolveField source owner path ds f = pure (f.shape false none) := by
  rw [resolveField, h]

lemma resolveField_of_some {d : Directive} (h : directiveFor? f.key ds = some d) :
    resolveField source owner path ds f = resolveUnder source owner path f d := by
  rw [resolveField, h]

end

/-- Resolving a collection is resolving its fields one by one, with the collection put on the way
to them. -/
theorem resolve_eq (source : Option Source) (path : List String) (c : Collection) (e : Entry) :
    resolve source path c e = (do
      let id := orElse c.id e.collectionId
      let fields ← Traced.traverse (resolveField source id (id :: path) e.references) c.fields
      return ⟨id, c.displayName, e, fields⟩) := by
  rw [resolve]
  congr 2
  funext f
  split
  · next h => exact (resolveField_of_none h).symm
  · next d h => exact (resolveField_of_some h).symm

@[simp] lemma shape_of_field (f : Field) (embedded : Bool) (shape : Option CollectionShape) :
    (f.shape embedded shape).shape = shape := rfl

/-- What a field of a resolved collection says about its reference: the last directive for the
field asks to embed it, the reference may be followed, and asking finds the collection. -/
structure Source.Resolves (s : Source) (path : List String) (ds : List Directive) (f : Field)
    (d : Directive) (t : String) (r : Collection) : Prop where
  requested : f.Requested ds d
  leads : f.LeadsTo path d t
  found : (s.ask t).value = .found r

section

variable {s : Source} {owner : String} {path : List String} {ds : List Directive} {f : Field}

/-- A reference that resolves is embedded, with the nested directives of the one that asked. -/
lemma resolveField_of_resolves {d : Directive} {t : String} {r : Collection}
    (h : s.Resolves path ds f d t r) :
    (resolveField (some s) owner path ds f).value =
      f.shape true (some (resolve (some s) path r (nestedEntry (orElse r.id t) d)).value) := by
  have hlast : directiveFor? f.key ds = some d :=
    directiveFor?_eq_some_iff.mpr h.requested.2.1
  have hask : f.isEmbeddingOf d = true :=
    Field.isEmbeddingOf_iff.mpr ⟨h.requested.1, h.requested.2.2⟩
  have hvalue : (s.reference owner path f d).value = some (t, r) :=
    Source.reference_eq_some_iff.mpr ⟨h.leads, h.found⟩
  rw [resolveField_of_some hlast, resolveUnder, if_pos hask, Traced.bind_value, hvalue]
  rfl

/-- A reference that does not resolve stays a link, like any other field. -/
lemma resolveField_of_not_resolves (h : ¬∃ d t r, s.Resolves path ds f d t r) :
    (resolveField (some s) owner path ds f).value = f.shape false none := by
  cases hlast : directiveFor? f.key ds with
  | none => rw [resolveField_of_none hlast, Traced.pure_value]
  | some d =>
      rw [resolveField_of_some hlast, resolveUnder]
      by_cases hask : f.isEmbeddingOf d = true
      · obtain ⟨hrefers, hmode⟩ := Field.isEmbeddingOf_iff.mp hask
        rw [if_pos hask, Traced.bind_value]
        cases hvalue : (s.reference owner path f d).value with
        | none => rfl
        | some p =>
            obtain ⟨hleads, hfound⟩ := Source.reference_eq_some_iff.mp hvalue
            have hreq : f.Requested ds d :=
              ⟨hrefers, directiveFor?_eq_some_iff.mp hlast, hmode⟩
            exact absurd ⟨d, p.1, p.2, hreq, hleads, hfound⟩ h
      · rw [if_neg hask, Traced.pure_value]

end

/-- Without a source, a resolved field depends on the directives only. -/
lemma exists_resolveField_none (ds : List Directive) (f : Field) :
    ∃ embedded, ∀ owner path,
      (resolveField none owner path ds f).value = f.shape embedded none := by
  cases hlast : directiveFor? f.key ds with
  | none =>
      refine ⟨false, fun owner path => ?_⟩
      rw [resolveField_of_none hlast, Traced.pure_value]
  | some d =>
      refine ⟨f.isEmbeddingOf d, fun owner path => ?_⟩
      rw [resolveField_of_some hlast, resolveUnder]
      cases f.isEmbeddingOf d with
      | false => rfl
      | true => rfl

/-- A resolved field is the field with its classification, whatever it embeds. -/
lemma exists_resolveField_eq (source : Option Source) (owner : String) (path : List String)
    (ds : List Directive) (f : Field) :
    ∃ embedded shape, (resolveField source owner path ds f).value = f.shape embedded shape := by
  cases source with
  | none =>
      obtain ⟨embedded, h⟩ := exists_resolveField_none ds f
      exact ⟨embedded, none, h owner path⟩
  | some s =>
      by_cases hres : ∃ d t r, s.Resolves path ds f d t r
      · obtain ⟨d, t, r, hr⟩ := hres
        exact ⟨true, _, resolveField_of_resolves hr⟩
      · exact ⟨false, none, resolveField_of_not_resolves hres⟩

/-- The shape of a resolved collection, from its resolved fields. -/
lemma resolve_value (source : Option Source) (path : List String) (c : Collection) (e : Entry) :
    (resolve source path c e).value =
      ⟨orElse c.id e.collectionId, c.displayName, e, c.fields.map fun f =>
        (resolveField source (orElse c.id e.collectionId) (orElse c.id e.collectionId :: path)
          e.references f).value⟩ := by
  rw [resolve_eq, Traced.bind_value, Traced.traverse_value]
  rfl

section

variable (source : Option Source) (path : List String) (c : Collection) (e : Entry)

@[simp] lemma resolve_collectionId :
    (resolve source path c e).value.collectionId = orElse c.id e.collectionId := by
  rw [resolve_value]

@[simp] lemma resolve_displayName :
    (resolve source path c e).value.displayName = c.displayName := by
  rw [resolve_value]

@[simp] lemma resolve_entry : (resolve source path c e).value.entry = e := by
  rw [resolve_value]

end

end WidgetContracts
