/-
Entries of the configuration: what is to be generated for a collection, and how its references are
resolved.

* `Directive`: what becomes of the reference in a field; directives nest, since a reference may lead
  to a collection whose own references are to be resolved.
* `CategoryKeys`, `Components`: the fields that place an item in a category, and the pages and
  widgets that are wanted.
* `Entry`: the configuration of one collection.
* `directiveFor?`: of several directives for a field the last one counts.
* `Directive.depth`, `depthOf`: how deep a directive nests, and the deepest of several;
  `depthOf_le_iff`, since a bound on several directives bounds each of them.
-/
namespace WidgetContracts

/-- What becomes of a reference: the referenced collection is embedded, or only linked. -/
inductive Mode where
  | embed
  | link
  deriving DecidableEq, Repr

/-- What becomes of the reference in a field, and of the references in the collection it leads to.
-/
structure Directive where
  fieldName : String
  mode : Mode
  nested : List Directive
  deriving Repr

/-- The fields that place an item in a category. -/
structure CategoryKeys where
  referenceField : String
  categorySlugField : String
  deriving DecidableEq, Repr

/-- The pages and widgets that are wanted. -/
structure Components where
  itemPage : Bool
  indexPage : Bool
  categoryPage : Bool
  tableWidget : Bool
  cardWidget : Bool
  deriving DecidableEq, Repr

/-- No page and no widget. -/
def Components.none : Components := ⟨false, false, false, false, false⟩

/-- The configuration of one collection. -/
structure Entry where
  collectionId : String
  pathPrefix : String
  slugField : String
  references : List Directive
  category : Option CategoryKeys
  components : Option Components
  deriving Repr

/-- The directive for a field; of several the last one counts. -/
def directiveFor? (key : String) : List Directive → Option Directive
  | [] => none
  | d :: r =>
    match directiveFor? key r with
    | some e => some e
    | none => if d.fieldName == key then some d else none

/-- The names that directives are for, each once, in order of first appearance. -/
def directiveKeys (ds : List Directive) : List String := (ds.map (·.fieldName)).eraseDups

theorem mem_of_directiveFor? {key : String} {ds : List Directive} {d : Directive}
    (h : directiveFor? key ds = some d) : d ∈ ds ∧ d.fieldName = key := by
  induction ds with
  | nil => simp [directiveFor?] at h
  | cons e r ih =>
    simp only [directiveFor?] at h
    split at h
    · next e' he =>
      cases h
      exact ⟨List.mem_cons_of_mem _ (ih he).1, (ih he).2⟩
    · split at h
      · next hk =>
        cases h
        exact ⟨List.mem_cons_self, by simpa using hk⟩
      · cases h

/-- The directives below a directive are smaller than any list with it. -/
theorem nested_sizeOf_lt {key : String} {ds : List Directive} {d : Directive}
    (h : directiveFor? key ds = some d) : sizeOf d.nested < sizeOf ds := by
  have := List.sizeOf_lt_of_mem (mem_of_directiveFor? h).1
  obtain ⟨n, m, s⟩ := d
  simp only [Directive.mk.sizeOf_spec] at this
  show sizeOf s < _
  omega

/-! ### How deep directives nest -/

mutual

/-- How deep a directive nests. -/
def Directive.depth : Directive → Nat
  | ⟨_, _, nested⟩ => depthOf nested + 1

/-- How deep the deepest of directives nests. -/
def depthOf : List Directive → Nat
  | [] => 0
  | d :: r => max d.depth (depthOf r)

end

theorem Directive.depth_eq (d : Directive) : d.depth = depthOf d.nested + 1 := by
  obtain ⟨_, _, nested⟩ := d
  rw [depth]

/-- Directives nest no deeper than a bound exactly when each of them does not. -/
theorem depthOf_le_iff {ds : List Directive} {n : Nat} :
    depthOf ds ≤ n ↔ ∀ d ∈ ds, d.depth ≤ n := by
  induction ds with
  | nil => simp [depthOf]
  | cons d r ih => rw [depthOf, Nat.max_le, ih, List.forall_mem_cons]

theorem depth_le_of_mem {d : Directive} {ds : List Directive} (h : d ∈ ds) :
    d.depth ≤ depthOf ds :=
  depthOf_le_iff.mp (Nat.le_refl _) d h

end WidgetContracts
