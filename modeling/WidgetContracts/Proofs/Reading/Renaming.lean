/-
Fields may stand under either of their names.

A field whose name is made of several words has one name in camel case and one in snake case, and
the list of the directives nested in another has two names as well. Of two names the first counts
where both are present.

* `Directive.renamed`, `Entry.renamed`: documents with the second names replaced by the first ones
  wherever a directive or an entry is read. Collections that stand in a table are left as they are.
* `Directive.IsPlain`, `Entry.IsPlain`: documents without second names there;
  `Entry.isPlain_renamed`.
* `Checked.causes`: a result, or what is wrong, without the places.
* `Directive.causes_readIn_renamed`, `Entry.causes_read_renamed`: renaming changes only places.
* `either_name_is_read`: an entry is read under either name, in all documents that look alike.
-/
import WidgetContracts.Proofs.Reading.Keys
import WidgetContracts.Proofs.Reading.Sharing
import WidgetContracts.Resolve

namespace WidgetContracts

open Reading

/-! ### Documents under first names -/

/-- A mapping with the second names of its fields replaced. -/
def Value.renamed (names : List (String × String)) : Value → Value
  | .map entries => .map (renameAll names entries)
  | v => v

/-- No entry has the second name of a field. -/
def HasFirstNames (names : List (String × String)) (entries : List (Scalar × Value)) : Prop :=
  ∀ n ∈ names, find? n.2 entries = none

namespace Directive

/-- The fields of a directive with two names. -/
def twoNames : List (String × String) :=
  [("fieldName", "field_name"), ("nested", "references")]

mutual

/-- The document of a directive, with all second names replaced. -/
def renamed : Value → Value
  | .map entries => .map (renameAll twoNames (renamedNested entries))
  | v => v

/-- The entries of a directive, with all second names replaced in those that it nests. -/
def renamedNested : List (Scalar × Value) → List (Scalar × Value)
  | [] => []
  | (k, v) :: r =>
    (k, if nestedNames.any k.isText then renamedList v else v) :: renamedNested r

/-- The document of a list of directives, with all second names replaced in them. -/
def renamedList : Value → Value
  | .list items => .list (renamedItems items)
  | v => v

/-- The documents of directives, with all second names replaced in them. -/
def renamedItems : List Value → List Value
  | [] => []
  | v :: r => renamed v :: renamedItems r

end

lemma renamedItems_eq_map (items : List Value) : renamedItems items = items.map renamed := by
  induction items with
  | nil => rfl
  | cons v r ih => rw [renamedItems, ih, List.map_cons]

lemma renamedNested_eq_changeUnder (entries : List (Scalar × Value)) :
    renamedNested entries = changeUnder nestedNames renamedList entries := by
  induction entries with
  | nil => rfl
  | cons p r ih =>
      obtain ⟨k, v⟩ := p
      rw [renamedNested, ih, changeUnder, changeUnder, List.map_cons]

/-- In a document no second name stands where a directive is read. -/
inductive IsPlain : Value → Prop where
  | map {entries : List (Scalar × Value)} (names : HasFirstNames twoNames entries)
      (nested : ∀ items, find? "nested" entries = some (.list items) → ∀ v ∈ items, IsPlain v) :
      IsPlain (.map entries)
  | other {v : Value} (h : ∀ entries, v ≠ .map entries) : IsPlain v

end Directive

namespace CategoryKeys

/-- The fields that place an item in a category all have two names. -/
def twoNames : List (String × String) :=
  [("referenceField", "reference_field"), ("categorySlugField", "category_slug_field")]

end CategoryKeys

namespace Components

/-- The pages and widgets that are wanted all have two names. -/
def twoNames : List (String × String) :=
  [("itemPage", "item_page"), ("indexPage", "index_page"), ("categoryPage", "category_page"),
    ("tableWidget", "table_widget"), ("cardWidget", "card_widget")]

end Components

namespace Entry

/-- The fields of an entry with two names. -/
def twoNames : List (String × String) :=
  [("collectionId", "collection_id"), ("pathPrefix", "path_prefix"), ("slugField", "slug_field")]

/-- The parts of an entry, whose documents have names of their own. -/
def partNames : List String := ["references", "category", "components"]

/-- The entries of an entry's document, with all second names replaced in its parts. -/
def renamedParts (entries : List (Scalar × Value)) : List (Scalar × Value) :=
  changeUnder ["references"] Directive.renamedList <|
    changeUnder ["category"] (.renamed CategoryKeys.twoNames) <|
    changeUnder ["components"] (.renamed Components.twoNames) entries

/-- The document of an entry, with all second names replaced. -/
def renamed : Value → Value
  | .map entries => .map (renameAll twoNames (renamedParts entries))
  | v => v

/-- In a document no second name stands where an entry or a part of it is read. -/
inductive IsPlain : Value → Prop where
  | map {entries : List (Scalar × Value)} (names : HasFirstNames twoNames entries)
      (references : ∀ items, find? "references" entries = some (.list items) →
        ∀ v ∈ items, Directive.IsPlain v)
      (category : ∀ es, find? "category" entries = some (.map es) →
        HasFirstNames CategoryKeys.twoNames es)
      (components : ∀ es, find? "components" entries = some (.map es) →
        HasFirstNames Components.twoNames es) : IsPlain (.map entries)
  | other {v : Value} (h : ∀ entries, v ≠ .map entries) : IsPlain v

end Entry

/-! ### No second name is left -/

lemma hasFirstNames_renameAll {names : List (String × String)}
    (h : ∀ m ∈ names, ∀ n ∈ names, m.1 ≠ n.2) (entries : List (Scalar × Value)) :
    HasFirstNames names (renameAll names entries) :=
  find?_renameAll_second h

/-- A mapping that comes of replacing names has only first names. -/
lemma hasFirstNames_of_renamed {names : List (String × String)} {v : Value}
    {entries : List (Scalar × Value)} (h : ∀ m ∈ names, ∀ n ∈ names, m.1 ≠ n.2)
    (hv : v.renamed names = .map entries) : HasFirstNames names entries := by
  cases v with
  | map es =>
      obtain rfl := Value.map.inj hv
      exact hasFirstNames_renameAll h es
  | scalar | list | set | pair | shared => cases hv

namespace Directive

/-- A list that comes of replacing names has members that do. -/
lemma exists_of_renamedList_eq {v : Value} {items : List Value} (h : renamedList v = .list items) :
    ∃ ws, v = .list ws ∧ items = ws.map renamed := by
  cases v with
  | list ws =>
      rw [renamedList, renamedItems_eq_map] at h
      exact ⟨ws, rfl, (Value.list.inj h).symm⟩
  | scalar | map | set | pair | shared => cases h

/-- The nested directives stand under the first of their names, with their names replaced. -/
lemma find?_nested_renamed (entries : List (Scalar × Value)) :
    find? "nested" (renameAll twoNames (renamedNested entries)) =
      (valueUnder nestedNames entries).map renamedList := by
  rw [find?_renameAll_first ("nested", "references") (by decide) (by decide) (by decide),
    renamedNested_eq_changeUnder]
  exact valueUnder_changeUnder_of_subset (List.Subset.refl _)

/-- Directives that stand in a list under a name are parts of the entries. -/
lemma sizeOf_lt_of_valueUnder {names : List String} {entries : List (Scalar × Value)}
    {items : List Value} {v : Value} (h : valueUnder names entries = some (.list items))
    (hv : v ∈ items) : sizeOf v < sizeOf entries := by
  have hlist : sizeOf (Value.list items) < sizeOf entries := by
    refine of_valueUnder (P := fun u => sizeOf u < sizeOf entries) (fun p hp => ?_) h
    have hentry := List.sizeOf_lt_of_mem hp
    rw [Prod.mk.sizeOf_spec] at hentry
    omega
  have hitem := List.sizeOf_lt_of_mem hv
  rw [Value.list.sizeOf_spec] at hlist
  omega

/-- Where a directive is read, all second names are replaced. -/
lemma isPlain_renamed (v : Value) : IsPlain (renamed v) := by
  cases v with
  | map entries =>
      rw [renamed]
      refine .map (hasFirstNames_renameAll (by decide) _) fun items hitems v hv => ?_
      rw [find?_nested_renamed, Option.map_eq_some_iff] at hitems
      obtain ⟨u, hu, hlist⟩ := hitems
      obtain ⟨ws, rfl, rfl⟩ := exists_of_renamedList_eq hlist
      obtain ⟨w, hw, rfl⟩ := List.mem_map.mp hv
      have := sizeOf_lt_of_valueUnder hu hw
      exact isPlain_renamed w
  | scalar | list | set | pair | shared => exact .other nofun
termination_by sizeOf v
decreasing_by
  simp_all
  omega

end Directive

/-! ### What is read, without the places -/

namespace Checked

variable {α β : Type} {a a' : Checked α} {b b' : Checked β}

/-- A result, or what is wrong, without the places. -/
def causes (a : Checked α) : Except (List Cause) α := a.mapError (List.map Problem.cause)

lemma causes_under (a : Checked α) (s : Step) : (a.under s).causes = a.causes := by
  cases a with
  | ok x => rfl
  | error ps => exact congrArg Except.error List.map_map

lemma eq_ok_iff_of_causes (h : a.causes = a'.causes) (x : α) : a = .ok x ↔ a' = .ok x := by
  calc a = .ok x
      ↔ a.causes = .ok x := mapError_eq_ok_iff.symm
    _ ↔ a'.causes = .ok x := by rw [h]
    _ ↔ a' = .ok x := mapError_eq_ok_iff

lemma causes_map (a : Checked α) (f : α → β) : causes (a.map f) = a.causes.map f := by
  cases a with
  | ok x => rfl
  | error ps => rfl

lemma causes_both_congr (ha : a.causes = a'.causes) (hb : b.causes = b'.causes) :
    (a.both b).causes = (a'.both b').causes := by
  cases a <;> cases a' <;> cases b <;> cases b' <;>
    simp_all [causes, both, Except.mapError]

end Checked

/-! ### Reading fields -/

section

variable {α : Type} {reader : Value → Checked α} {names : List String} {absent : α}
  {es fs : List (Scalar × Value)}

/-- What a field that may be absent is read as depends on what stands under its names. -/
lemma causes_optional : (optional names absent reader es).causes =
    ((valueUnder names es).map fun v => (reader v).causes).getD (.ok absent) := by
  rw [Reading.optional, ← map_snd_lookup]
  cases lookup names es with
  | none => rfl
  | some p => exact Checked.causes_under _ _

/-- What a field that must be present is read as depends on what stands under its names. -/
lemma causes_required : (required names reader es).causes =
    ((valueUnder names es).map fun v => (reader v).causes).getD (.error [.missing]) := by
  rw [required, ← map_snd_lookup]
  cases lookup names es with
  | none => rfl
  | some p => exact Checked.causes_under _ _

/-- A field that may be absent is read as before from a changed value, if each value is read as what
it is changed to. -/
lemma causes_optional_of_map {f : Value → Value}
    (h : valueUnder names fs = (valueUnder names es).map f)
    (hr : ∀ v, (reader (f v)).causes = (reader v).causes) :
    (optional names absent reader fs).causes = (optional names absent reader es).causes := by
  rw [causes_optional, causes_optional, h, Option.map_map]
  exact congrArg (fun g => (Option.map g _).getD _) (funext hr)

/-- A list is read as one with changed members, if each is read as what it is changed to. -/
lemma causes_members_map {f : Value → Value} (h : ∀ v, (reader (f v)).causes = (reader v).causes)
    (i : Nat) (vs : List Value) :
    (members reader i (vs.map f)).causes = (members reader i vs).causes := by
  induction vs generalizing i with
  | nil => rfl
  | cons v r ih =>
      rw [List.map_cons, members, members, Checked.causes_map, Checked.causes_map]
      refine congrArg _ (Checked.causes_both_congr ?_ (ih (i + 1)))
      rw [Checked.causes_under, Checked.causes_under, h]

/-- A list that may be null is read as one with its names replaced. -/
lemma causes_listOrNull_renamedList {t : Shared} {r : Value → Checked Directive}
    (h : ∀ v, (r (Directive.renamed v)).causes = (r v).causes) (v : Value) :
    (listOrNull t r (Directive.renamedList v)).causes = (listOrNull t r v).causes := by
  cases v with
  | list items =>
      rw [Directive.renamedList, Directive.renamedItems_eq_map]
      exact causes_members_map h 0 items
  | scalar | map | set | pair | shared => rfl

lemma causes_nullable {f : Value → Value} {v : Value} (hnull : (f v).isNull = v.isNull)
    (h : (reader (f v)).causes = (reader v).causes) :
    (nullable reader (f v)).causes = (nullable reader v).causes := by
  rw [nullable, nullable, hnull]
  split
  · rfl
  · rw [Checked.causes_map, Checked.causes_map, h]

end

/-! ### Reading documents -/

/-- A directive is read under either name of its fields, also those that it nests. -/
lemma Directive.causes_readIn_renamed (t : Shared) (left : Nat) (around : List Nat) (v : Value) :
    (readIn t left around (renamed v)).causes = (readIn t left around v).causes := by
  induction left generalizing around v with
  | zero =>
      cases v with
      | map entries => rfl
      | scalar | list | set | pair | shared => rfl
  | succ left ih =>
      cases v with
      | map entries =>
          have hread : ∀ es, readIn t (left + 1) around (.map es) =
              ((required ["fieldName", "field_name"] text es).both <|
                (optional ["mode"] .link Mode.read es).both <|
                optional nestedNames [] (listOrNull t (readIn t left around)) es).map
                fun p => ⟨p.1, p.2.1, p.2.2⟩ := fun _ => rfl
          have hfield : ∀ fields, (∀ n ∈ twoNames, Fits fields n) →
              (∀ key ∈ fields, key ∉ nestedNames) →
              valueUnder fields (renameAll twoNames (renamedNested entries)) =
                valueUnder fields entries := by
            intro fields hfits hother
            rw [valueUnder_renameAll (by decide) hfits, renamedNested_eq_changeUnder,
              valueUnder_changeUnder_of_disjoint hother]
          have hnested : valueUnder nestedNames (renameAll twoNames (renamedNested entries)) =
              (valueUnder nestedNames entries).map renamedList := by
            rw [valueUnder_renameAll (by decide) (by decide), renamedNested_eq_changeUnder]
            exact valueUnder_changeUnder_of_subset (List.Subset.refl _)
          rw [renamed, hread, hread, Checked.causes_map, Checked.causes_map]
          refine congrArg _ (Checked.causes_both_congr ?_ (Checked.causes_both_congr ?_ ?_))
          · rw [causes_required, causes_required, hfield _ (by decide) (by decide)]
          · rw [causes_optional, causes_optional, hfield _ (by decide) (by decide)]
          · exact causes_optional_of_map hnested (causes_listOrNull_renamedList (ih around))
      | scalar | list | set | pair | shared => rfl

lemma CategoryKeys.causes_read_renamed (t : Shared) (v : Value) :
    (read t (v.renamed twoNames)).causes = (read t v).causes := by
  cases v with
  | map entries =>
      have hfield : ∀ fields, (∀ n ∈ twoNames, Fits fields n) →
          valueUnder fields (renameAll twoNames entries) = valueUnder fields entries :=
        fun fields => valueUnder_renameAll (by decide)
      have hread : ∀ es, read t (.map es) =
          ((optional ["referenceField", "reference_field"] "" text es).both
            (optional ["categorySlugField", "category_slug_field"] "" text es)).map
            fun p => ⟨p.1, p.2⟩ := fun _ => rfl
      rw [Value.renamed, hread, hread, Checked.causes_map, Checked.causes_map]
      refine congrArg _ (Checked.causes_both_congr ?_ ?_)
      · rw [causes_optional, causes_optional, hfield _ (by decide)]
      · rw [causes_optional, causes_optional, hfield _ (by decide)]
  | scalar | list | set | pair | shared => rfl

lemma Components.causes_read_renamed (t : Shared) (v : Value) :
    (read t (v.renamed twoNames)).causes = (read t v).causes := by
  cases v with
  | map entries =>
      have hflag : ∀ fields, (∀ n ∈ twoNames, Fits fields n) →
          (optional fields false flag (renameAll twoNames entries)).causes =
            (optional fields false flag entries).causes := by
        intro fields hfits
        rw [causes_optional, causes_optional, valueUnder_renameAll (by decide) hfits]
      have hread : ∀ es, read t (.map es) =
          ((optional ["itemPage", "item_page"] false flag es).both <|
            (optional ["indexPage", "index_page"] false flag es).both <|
            (optional ["categoryPage", "category_page"] false flag es).both <|
            (optional ["tableWidget", "table_widget"] false flag es).both <|
            optional ["cardWidget", "card_widget"] false flag es).map
            fun p => ⟨p.1, p.2.1, p.2.2.1, p.2.2.2.1, p.2.2.2.2⟩ := fun _ => rfl
      rw [Value.renamed, hread, hread, Checked.causes_map, Checked.causes_map]
      exact congrArg _ <|
        Checked.causes_both_congr (hflag _ (by decide)) <|
        Checked.causes_both_congr (hflag _ (by decide)) <|
        Checked.causes_both_congr (hflag _ (by decide)) <|
        Checked.causes_both_congr (hflag _ (by decide)) (hflag _ (by decide))
  | scalar | list | set | pair | shared => rfl

lemma Value.isNull_renamed (names : List (String × String)) (v : Value) :
    (v.renamed names).isNull = v.isNull := by
  cases v with
  | map entries => rfl
  | scalar | list | set | pair | shared => rfl

namespace Entry

section

variable {entries : List (Scalar × Value)}

/-- A field that is no part is read from the same value. -/
lemma valueUnder_renamedParts {fields : List String} (hfits : ∀ n ∈ twoNames, Fits fields n)
    (hparts : ∀ key ∈ fields, key ∉ partNames) :
    valueUnder fields (renameAll twoNames (renamedParts entries)) = valueUnder fields entries := by
  have hpart : ∀ name ∈ partNames, ∀ key ∈ fields, key ∉ [name] :=
    fun name hname key hkey hmem => hparts key hkey (List.mem_singleton.mp hmem ▸ hname)
  rw [valueUnder_renameAll (by decide) hfits, renamedParts,
    valueUnder_changeUnder_of_disjoint (hpart "references" (by decide)),
    valueUnder_changeUnder_of_disjoint (hpart "category" (by decide)),
    valueUnder_changeUnder_of_disjoint (hpart "components" (by decide))]

lemma valueUnder_references_renamed :
    valueUnder ["references"] (renameAll twoNames (renamedParts entries)) =
      (valueUnder ["references"] entries).map Directive.renamedList := by
  rw [valueUnder_renameAll (by decide) (by decide), renamedParts,
    valueUnder_changeUnder_of_subset (by decide), valueUnder_changeUnder_of_disjoint (by decide),
    valueUnder_changeUnder_of_disjoint (by decide)]

lemma valueUnder_category_renamed :
    valueUnder ["category"] (renameAll twoNames (renamedParts entries)) =
      (valueUnder ["category"] entries).map (.renamed CategoryKeys.twoNames) := by
  rw [valueUnder_renameAll (by decide) (by decide), renamedParts,
    valueUnder_changeUnder_of_disjoint (by decide), valueUnder_changeUnder_of_subset (by decide),
    valueUnder_changeUnder_of_disjoint (by decide)]

lemma valueUnder_components_renamed :
    valueUnder ["components"] (renameAll twoNames (renamedParts entries)) =
      (valueUnder ["components"] entries).map (.renamed Components.twoNames) := by
  rw [valueUnder_renameAll (by decide) (by decide), renamedParts,
    valueUnder_changeUnder_of_disjoint (by decide), valueUnder_changeUnder_of_disjoint (by decide),
    valueUnder_changeUnder_of_subset (by decide)]

end

/-- Where an entry is read, all second names are replaced. -/
lemma isPlain_renamed (v : Value) : IsPlain (renamed v) := by
  cases v with
  | map entries =>
      rw [renamed]
      refine .map (hasFirstNames_renameAll (by decide) _) (fun items hitems v hv => ?_)
        (fun es hes => ?_) fun es hes => ?_
      · rw [← valueUnder_singleton, valueUnder_references_renamed, Option.map_eq_some_iff] at hitems
        obtain ⟨u, -, hlist⟩ := hitems
        obtain ⟨ws, -, rfl⟩ := Directive.exists_of_renamedList_eq hlist
        obtain ⟨w, -, rfl⟩ := List.mem_map.mp hv
        exact Directive.isPlain_renamed w
      · rw [← valueUnder_singleton, valueUnder_category_renamed, Option.map_eq_some_iff] at hes
        obtain ⟨u, -, hmap⟩ := hes
        exact hasFirstNames_of_renamed (by decide) hmap
      · rw [← valueUnder_singleton, valueUnder_components_renamed, Option.map_eq_some_iff] at hes
        obtain ⟨u, -, hmap⟩ := hes
        exact hasFirstNames_of_renamed (by decide) hmap
  | scalar | list | set | pair | shared => exact .other nofun

/-- An entry is read under either name of its fields, also of those of its parts. -/
lemma causes_read_renamed (t : Shared) (v : Value) :
    (read t (renamed v)).causes = (read t v).causes := by
  cases v with
  | map entries =>
      have htext : ∀ fields, (∀ n ∈ twoNames, Fits fields n) →
          (∀ key ∈ fields, key ∉ partNames) →
          (optional fields "" text (renameAll twoNames (renamedParts entries))).causes =
            (optional fields "" text entries).causes := by
        intro fields hfits hparts
        rw [causes_optional, causes_optional, valueUnder_renamedParts hfits hparts]
      have hread : ∀ es, read t (.map es) =
          ((optional ["collectionId", "collection_id"] "" text es).both <|
            (optional ["pathPrefix", "path_prefix"] "" text es).both <|
            (optional ["slugField", "slug_field"] "" text es).both <|
            (optional ["references"] [] (listOrNull t (Directive.read t)) es).both <|
            (optional ["category"] .none (nullable (CategoryKeys.read t)) es).both <|
            optional ["components"] .none (nullable (Components.read t)) es).map
            fun p => ⟨p.1, p.2.1, p.2.2.1, p.2.2.2.1, p.2.2.2.2.1, p.2.2.2.2.2⟩ := fun _ => rfl
      have hdirectives : ∀ v, (listOrNull t (Directive.read t) (Directive.renamedList v)).causes =
          (listOrNull t (Directive.read t) v).causes :=
        causes_listOrNull_renamedList (Directive.causes_readIn_renamed t Directive.maxDepth [])
      have hcategory : ∀ v : Value, (nullable (CategoryKeys.read t)
          (v.renamed CategoryKeys.twoNames)).causes = (nullable (CategoryKeys.read t) v).causes :=
        fun v => causes_nullable (v.isNull_renamed _) (CategoryKeys.causes_read_renamed t v)
      have hcomponents : ∀ v : Value, (nullable (Components.read t)
          (v.renamed Components.twoNames)).causes = (nullable (Components.read t) v).causes :=
        fun v => causes_nullable (v.isNull_renamed _) (Components.causes_read_renamed t v)
      rw [renamed, hread, hread, Checked.causes_map, Checked.causes_map]
      exact congrArg _ <|
        Checked.causes_both_congr (htext _ (by decide) (by decide)) <|
        Checked.causes_both_congr (htext _ (by decide) (by decide)) <|
        Checked.causes_both_congr (htext _ (by decide) (by decide)) <|
        Checked.causes_both_congr
          (causes_optional_of_map valueUnder_references_renamed hdirectives) <|
        Checked.causes_both_congr
          (causes_optional_of_map valueUnder_category_renamed hcategory)
          (causes_optional_of_map valueUnder_components_renamed hcomponents)
  | scalar | list | set | pair | shared => rfl

end Entry

/-! ### Either name -/

/-- **Fields may stand under either of their names**: with all second names replaced, a document is
read as the same entry, or is refused for the same causes in the same order, and so for all
documents that look alike, however they share their collections; hence the same directives count,
and every collection is resolved in the same way. -/
theorem either_name_is_read (t : Shared) (v : Value) :
    Entry.IsPlain (Entry.renamed v) ∧
      (Entry.read t (Entry.renamed v)).causes = (Entry.read t v).causes ∧
      (∀ e, Entry.read t (Entry.renamed v) = .ok e ↔ Entry.read t v = .ok e) ∧
      ∀ u w, LooksLike t u v w →
        (∀ e, Entry.read t (Entry.renamed v) = .ok e ↔ Entry.read u w = .ok e) ∧
        ∀ e e', Entry.read u w = .ok e → Entry.read t (Entry.renamed v) = .ok e' →
          (∀ key, directiveFor? key e'.references = directiveFor? key e.references) ∧
            ∀ source path c, resolve source path c e' = resolve source path c e := by
  have hcauses := Entry.causes_read_renamed t v
  have hread := Checked.eq_ok_iff_of_causes hcauses
  refine ⟨Entry.isPlain_renamed v, hcauses, hread, fun u w h => ?_⟩
  have hlooks : ∀ e, Entry.read t (Entry.renamed v) = .ok e ↔ Entry.read u w = .ok e := fun e =>
    (hread e).trans ⟨Entry.read_of_looksLike h, Entry.read_of_looksLike h.symm⟩
  refine ⟨hlooks, fun e e' he he' => ?_⟩
  obtain rfl : e = e' := Except.ok.inj (((hlooks e).mpr he).symm.trans he')
  exact ⟨fun _ => rfl, fun _ _ _ => rfl⟩

/-! ### Documents with names of both kinds -/

namespace Sample

/-- A document with names of both kinds, some fields under both. -/
def mixedNames : Value :=
  .object [("collection_id", .int 7), ("collectionId", .text "Posts"),
    ("path_prefix", .text "/posts"), ("slugField", .text "slug"),
    ("references", .list [.object [("field_name", .text "author"), ("mode", .text "embed"),
      ("references", .list [.object [("field_name", .text "posts"), ("nested", .null),
        ("references", .int 5)]])]]),
    ("components", .object [("item_page", .bool true), ("cardWidget", .bool true)])]

/-- The same document with the first names only. -/
def firstNames : Value :=
  .object [("collectionId", .text "Posts"), ("pathPrefix", .text "/posts"),
    ("slugField", .text "slug"),
    ("references", .list [.object [("fieldName", .text "author"), ("mode", .text "embed"),
      ("nested", .list [.object [("fieldName", .text "posts"), ("nested", .null)]])]]),
    ("components", .object [("itemPage", .bool true), ("cardWidget", .bool true)])]

lemma renamed_mixedNames : Entry.renamed mixedNames = firstNames := rfl

/-- The entry in both. -/
def namedEntry : Entry :=
  ⟨"Posts", "/posts", "slug", [⟨"author", .embed, [⟨"posts", .link, []⟩]⟩], none,
    some ⟨true, false, false, false, true⟩⟩

/-- A document that refers to the one directive in a table. -/
def tableNames : Value :=
  .object [("collection_id", .text "Posts"), ("references", .list [.shared 0])]

/-- The table. -/
def nameTable : Shared := #[.object [("field_name", .text "author")]]

/-- The same document with the directive in its place. -/
def placedNames : Value :=
  .object [("collection_id", .text "Posts"),
    ("references", .list [.object [("field_name", .text "author")]])]

lemma looksLike_placedNames : LooksLike #[] nameTable placedNames tableNames := fun
  | 0 | 1 | 2 | 3 | _ + 4 => rfl

/-- The entry in both. -/
def briefEntry : Entry := ⟨"Posts", "", "", [⟨"author", .link, []⟩], none, none⟩

end Sample

theorem either_name_is_read_sample :
    (Entry.read #[] Sample.firstNames = .ok Sample.namedEntry ∧ Entry.IsPlain Sample.firstNames ∧
        Entry.read #[] Sample.mixedNames = .ok Sample.namedEntry) ∧
      LooksLike #[] Sample.nameTable Sample.placedNames Sample.tableNames ∧
      Entry.read #[] (Entry.renamed Sample.placedNames) = .ok Sample.briefEntry ∧
      Entry.read Sample.nameTable Sample.tableNames = .ok Sample.briefEntry := by
  have hfirst : Entry.read #[] Sample.firstNames = .ok Sample.namedEntry := rfl
  obtain ⟨hplain, -, hread, -⟩ := either_name_is_read #[] Sample.mixedNames
  rw [Sample.renamed_mixedNames] at hplain hread
  have hbrief : Entry.read #[] (Entry.renamed Sample.placedNames) = .ok Sample.briefEntry := rfl
  obtain ⟨-, -, -, hlooks⟩ := either_name_is_read #[] Sample.placedNames
  obtain ⟨htable, -⟩ := hlooks _ _ Sample.looksLike_placedNames
  exact ⟨⟨hfirst, hplain, (hread _).mp hfirst⟩, Sample.looksLike_placedNames, hbrief,
    (htable _).mp hbrief⟩

end WidgetContracts
