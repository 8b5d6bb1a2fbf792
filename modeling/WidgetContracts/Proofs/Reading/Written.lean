/-
What is written is read back.

* `Directive.readIn_toValue_iff`: a written directive is read back exactly when it nests no deeper
  than the reader goes.
* `Directive.depth_le_of_readIn`: no directive that was read nests deeper.
* `Entry.read_toValue_iff`: a written entry is read back exactly when its directives nest no deeper
  than readers go.
* `Collection.read_toValue`: a written collection is read back.
* `written_form_reads_back`: all that, and what was read from any document is read back from its
  written form.
* `written_form_refused`: an entry whose directives nest too deep is refused.
-/
import WidgetContracts.Collection
import WidgetContracts.Entry.Reading
import WidgetContracts.Proofs.Reading.Outcomes

namespace WidgetContracts

open Reading

/-! ### Directives -/

namespace Directive

lemma toValues_eq_map (ds : List Directive) : toValues ds = ds.map toValue := by
  induction ds with
  | nil => rfl
  | cons d r ih => rw [toValues, ih, List.map_cons]

/-- A directive is read from a mapping whose fields are read, if it does not stand inside itself and
the reader goes one deeper. -/
lemma readIn_succ_eq_ok_iff {t : Shared} {left : Nat} {around : List Nat} {v : Value}
    {d : Directive} : readIn t (left + 1) around v = .ok d ↔
      v.numbers.any around.contains = false ∧ ∃ entries, v.actual t = .map entries ∧
        required ["fieldName", "field_name"] text entries = .ok d.fieldName ∧
        optional ["mode"] .link Mode.read entries = .ok d.mode ∧
        optional nestedNames [] (listOrNull t (readIn t left (v.numbers ++ around))) entries =
          .ok d.nested := by
  rw [readIn]
  cases hcyclic : v.numbers.any around.contains with
  | true => simp [Checked.fail]
  | false =>
      rw [if_neg Bool.false_ne_true]
      cases hactual : v.actual t with
      | map entries =>
          obtain ⟨fieldName, mode, nested⟩ := d
          simp only [Checked.map_eq_ok_iff, Checked.both_eq_ok_iff]
          constructor
          · rintro ⟨p, h, hp⟩
            cases hp
            exact ⟨trivial, entries, rfl, h⟩
          · rintro ⟨-, _, hmap, h⟩
            obtain rfl := Value.map.inj hmap
            exact ⟨(fieldName, mode, nested), h, rfl⟩
      | scalar | list | set | pair | shared => simp [Checked.fail]

/-- A written directive is read back exactly when it nests no deeper than the reader goes. -/
theorem readIn_toValue_iff {t : Shared} {left : Nat} {around : List Nat} {d : Directive} :
    readIn t left around d.toValue = .ok d ↔ d.depth ≤ left := by
  induction left generalizing d with
  | zero =>
      rw [readIn, depth_eq]
      exact ⟨nofun, nofun⟩
  | succ left ih =>
      obtain ⟨fieldName, mode, nested⟩ := d
      have hmode : Mode.read (.text mode.word) = .ok mode := by cases mode <;> rfl
      have hnested : listOrNull t (readIn t left around) (.list (toValues nested)) = .ok nested ↔
          depthOf nested ≤ left := by
        change members (readIn t left around) 0 (toValues nested) = .ok nested ↔ _
        rw [toValues_eq_map, members_map_eq_ok_iff, depthOf_le_iff]
        exact forall₂_congr fun d _ => ih
      rw [readIn_succ_eq_ok_iff, depth_eq, Nat.add_le_add_iff_right, ← hnested]
      constructor
      · rintro ⟨-, entries, hmap, -, -, h⟩
        obtain rfl := Value.map.inj hmap
        exact Checked.under_eq_ok_iff.mp h
      · intro h
        exact ⟨rfl, _, rfl, rfl, Checked.under_eq_ok_iff.mpr hmode, Checked.under_eq_ok_iff.mpr h⟩

/-- A written directive is read back, unless it nests too deep. -/
lemma unless_readIn (t : Shared) (left : Nat) :
    ∀ (around : List Nat) (d : Directive), (readIn t left around d.toValue).Unless .tooDeep d := by
  induction left with
  | zero =>
      intro around d
      have hplain : (if d.toValue.numbers.any around.contains then Cause.cyclic else .tooDeep) =
          .tooDeep := by cases d; rfl
      rw [readIn, hplain]
      exact .error fun p hp => (List.mem_singleton.mp hp) ▸ rfl
  | succ left ih =>
      intro around d
      obtain ⟨fieldName, mode, nested⟩ := d
      have hmode : (Mode.read (.text mode.word)).Unless .tooDeep mode := by
        cases mode <;> exact .ok
      have hnested := unless_members (fun d (_ : d ∈ nested) => ih around d) 0
      rw [← toValues_eq_map] at hnested
      have hname : (text (.text fieldName)).Unless .tooDeep fieldName := .ok
      exact ((hname.under (.key "fieldName")).both
        ((hmode.under (.key "mode")).both (hnested.under (.key "nested")))).map rfl

/-- No directive that was read nests deeper than the reader goes. -/
lemma depth_le_of_readIn {t : Shared} {left : Nat} {around : List Nat} {v : Value}
    {d : Directive} (h : readIn t left around v = .ok d) : d.depth ≤ left := by
  induction left generalizing around v d with
  | zero => cases h
  | succ left ih =>
      obtain ⟨-, entries, -, -, -, hnested⟩ := readIn_succ_eq_ok_iff.mp h
      rw [depth_eq, Nat.add_le_add_iff_right, depthOf_le_iff]
      rcases optional_eq_ok_iff.mp hnested with ⟨_, _, -, hlist⟩ | ⟨-, hnone⟩
      · exact forall_mem_of_listOrNull (fun _ _ hd => ih hd) hlist
      · rw [← hnone]
        exact fun _ hd => absurd hd List.not_mem_nil

end Directive

/-! ### Entries -/

/-- What may be missing is written as null, and read back. -/
lemma nullable_getD_null {α : Type} {reader : Value → Checked α} {write : α → Value}
    (hreader : ∀ a, reader (write a) = .ok a) (hwrite : ∀ a, (write a).isNull = false)
    (o : Option α) : nullable reader ((o.map write).getD .null) = .ok o := by
  cases o with
  | none => rfl
  | some a =>
      rw [nullable, Option.map_some, Option.getD_some, hwrite, if_neg Bool.false_ne_true, hreader]
      rfl

lemma CategoryKeys.read_toValue (t : Shared) (c : CategoryKeys) : read t c.toValue = .ok c := rfl

lemma Components.read_toValue (t : Shared) (c : Components) : read t c.toValue = .ok c := rfl

namespace Entry

/-- An entry is read from a mapping whose fields are read. -/
lemma read_eq_ok_iff {t : Shared} {v : Value} {e : Entry} : read t v = .ok e ↔
    ∃ entries, v.actual t = .map entries ∧
      optional ["collectionId", "collection_id"] "" text entries = .ok e.collectionId ∧
      optional ["pathPrefix", "path_prefix"] "" text entries = .ok e.pathPrefix ∧
      optional ["slugField", "slug_field"] "" text entries = .ok e.slugField ∧
      optional ["references"] [] (listOrNull t (Directive.read t)) entries = .ok e.references ∧
      optional ["category"] .none (nullable (CategoryKeys.read t)) entries = .ok e.category ∧
      optional ["components"] .none (nullable (Components.read t)) entries = .ok e.components := by
  rw [read]
  cases hactual : v.actual t with
  | map entries =>
      simp only [Checked.map_eq_ok_iff, Checked.both_eq_ok_iff]
      constructor
      · rintro ⟨p, h, rfl⟩
        exact ⟨entries, rfl, h⟩
      · rintro ⟨_, hmap, h⟩
        obtain rfl := Value.map.inj hmap
        exact ⟨(e.collectionId, e.pathPrefix, e.slugField, e.references, e.category, e.components),
          h, rfl⟩
  | scalar | list | set | pair | shared => simp [Checked.fail]

/-- A written entry is read back exactly when its directives nest no deeper than readers go. -/
theorem read_toValue_iff {t : Shared} {e : Entry} :
    read t e.toValue = .ok e ↔ depthOf e.references ≤ Directive.maxDepth := by
  have hreferences : listOrNull t (Directive.read t) (.list (Directive.toValues e.references)) =
      .ok e.references ↔ depthOf e.references ≤ Directive.maxDepth := by
    change members (Directive.read t) 0 (Directive.toValues e.references) = _ ↔ _
    rw [Directive.toValues_eq_map, members_map_eq_ok_iff, depthOf_le_iff]
    exact forall₂_congr fun d _ => Directive.readIn_toValue_iff
  have hcategory : nullable (CategoryKeys.read t) ((e.category.map CategoryKeys.toValue).getD .null)
      = .ok e.category :=
    nullable_getD_null (CategoryKeys.read_toValue t) (fun _ => rfl) _
  have hcomponents : nullable (Components.read t)
      ((e.components.map Components.toValue).getD .null) = .ok e.components :=
    nullable_getD_null (Components.read_toValue t) (fun _ => rfl) _
  rw [read_eq_ok_iff, ← hreferences]
  constructor
  · rintro ⟨entries, hmap, -, -, -, h, -⟩
    obtain rfl := Value.map.inj hmap
    exact Checked.under_eq_ok_iff.mp h
  · intro h
    exact ⟨_, rfl, rfl, rfl, rfl, Checked.under_eq_ok_iff.mpr h,
      Checked.under_eq_ok_iff.mpr hcategory, Checked.under_eq_ok_iff.mpr hcomponents⟩

/-- A written entry is read back, unless its directives nest too deep. -/
lemma unless_read (t : Shared) (e : Entry) : (read t e.toValue).Unless .tooDeep e := by
  have htext : ∀ s : String, (text (.text s)).Unless .tooDeep s := fun _ => .ok
  have hreferences := unless_members
    (fun d (_ : d ∈ e.references) => Directive.unless_readIn t Directive.maxDepth [] d) 0
  rw [← Directive.toValues_eq_map] at hreferences
  have hcategory : (nullable (CategoryKeys.read t)
      ((e.category.map CategoryKeys.toValue).getD .null)).Unless .tooDeep e.category := by
    rw [nullable_getD_null (CategoryKeys.read_toValue t) (fun _ => rfl)]
    exact .ok
  have hcomponents : (nullable (Components.read t)
      ((e.components.map Components.toValue).getD .null)).Unless .tooDeep e.components := by
    rw [nullable_getD_null (Components.read_toValue t) (fun _ => rfl)]
    exact .ok
  exact (((htext e.collectionId).under (.key "collectionId")).both
    (((htext e.pathPrefix).under (.key "pathPrefix")).both
      (((htext e.slugField).under (.key "slugField")).both
        ((hreferences.under (.key "references")).both
          ((hcategory.under (.key "category")).both
            (hcomponents.under (.key "components"))))))).map rfl

/-- No entry that was read has directives that nest deeper than readers go. -/
lemma depthOf_le_of_read {t : Shared} {v : Value} {e : Entry} (h : read t v = .ok e) :
    depthOf e.references ≤ Directive.maxDepth := by
  obtain ⟨entries, -, -, -, -, hreferences, -⟩ := read_eq_ok_iff.mp h
  rw [depthOf_le_iff]
  rcases optional_eq_ok_iff.mp hreferences with ⟨_, _, -, hlist⟩ | ⟨-, hnone⟩
  · exact forall_mem_of_listOrNull (fun _ _ hd => Directive.depth_le_of_readIn hd) hlist
  · rw [← hnone]
    exact fun _ hd => absurd hd List.not_mem_nil

end Entry

/-! ### Collections -/

lemma nullableText_getD_null (o : Option String) :
    nullableText ((o.map Value.text).getD .null) = .ok o := by
  have htext : ∀ s : String, text (.text s) = .ok s := fun _ => rfl
  exact nullable_getD_null htext (fun _ => rfl) o

namespace Field

/-- The entries of a written field. -/
def written (f : Field) : List (Scalar × Value) :=
  [(.text "key", .text f.key), (.text "displayName", (f.displayName.map Value.text).getD .null),
    (.text "type", .text f.type), (.text "required", .bool f.required),
    (.text targetKey, (f.target.map Value.text).getD .null)]

/-- A written field has no metadata from which a target might be lifted. -/
lemma liftTarget_written (f : Field) : liftTarget f.written = .ok f.written := by
  rw [liftTarget]
  cases (find? targetKey f.written).any (·.isTruthy) with
  | true => rfl
  | false => rfl

/-- A written field is read back. -/
lemma read_toValue (f : Field) : read f.toValue = .ok (.ok f) := by
  have hlifted : readLifted f.written = .ok f := by
    have hname := nullableText_getD_null f.displayName
    have htarget := nullableText_getD_null f.target
    rw [readLifted, Checked.map_eq_ok_iff]
    refine ⟨(f.key, f.displayName, f.type, f.required, f.target), ?_, rfl⟩
    simp only [Checked.both_eq_ok_iff]
    exact ⟨rfl, Checked.under_eq_ok_iff.mpr hname, rfl, rfl, Checked.under_eq_ok_iff.mpr htarget⟩
  change (do return readLifted (← liftTarget f.written)) = _
  rw [liftTarget_written]
  exact congrArg Except.ok hlifted

end Field

/-- Written fields are read back. -/
lemma readFieldsFrom_toValue (fs : List Field) :
    ∀ i, readFieldsFrom i (fs.map Field.toValue) = .ok (.ok fs) := by
  induction fs with
  | nil => exact fun _ => rfl
  | cons f r ih =>
      intro i
      rw [List.map_cons, readFieldsFrom, Field.read_toValue, ih]
      rfl

/-- A collection is read from a mapping whose fields are read. -/
lemma Collection.read_map {entries : List (Scalar × Value)} {id : String}
    {displayName : Option String} {fields : List Field}
    (hid : required ["_id", "id"] text entries = .ok id)
    (hname : optional ["displayName", "display_name"] none nullableText entries = .ok displayName)
    (hfields : readFieldsOf entries = .ok (.ok fields)) :
    read (.map entries) = .ok ⟨id, displayName, fields⟩ := by
  rw [read, hfields, hid, hname]
  rfl

/-- A written collection is read back. -/
theorem Collection.read_toValue (c : Collection) : read c.toValue = .ok c := by
  have hname := nullableText_getD_null c.displayName
  refine Collection.read_map rfl (Checked.under_eq_ok_iff.mpr hname) ?_
  change (do return (← readFieldsFrom 0 (c.fields.map Field.toValue)).under (.key "fields")) = _
  rw [readFieldsFrom_toValue]
  rfl

/-! ### The written form -/

/-- **What is written is read back**: a written entry exactly when its directives nest no deeper
than readers go, beyond which all its problems say so, and a written collection always; so that what
was read from any document, as an entry or as a collection, is read again from its written form. -/
theorem written_form_reads_back :
    (∀ (t : Shared) (e : Entry),
      (Entry.read t e.toValue = .ok e ↔ depthOf e.references ≤ Directive.maxDepth) ∧
        (Entry.read t e.toValue).Unless .tooDeep e) ∧
    (∀ c : Collection, Collection.read c.toValue = .ok c) ∧
    (∀ (t t' : Shared) (v : Value) (e : Entry), Entry.read t v = .ok e →
      Entry.read t' e.toValue = .ok e) ∧
    ∀ (v : Value) (c : Collection), Collection.read v = .ok c →
      Collection.read c.toValue = .ok c := by
  refine ⟨fun t e => ⟨Entry.read_toValue_iff, Entry.unless_read t e⟩, Collection.read_toValue,
    fun t t' v e h => ?_, fun _ c _ => Collection.read_toValue c⟩
  exact Entry.read_toValue_iff.mpr (Entry.depthOf_le_of_read h)

/-! ### Loosely written documents, and directives nested too deep -/

namespace Sample

/-- An entry in a document that mixes the spellings of names, and gives truth values as words and
numbers. -/
def looseEntry : Value :=
  .object [("collection_id", .text "Posts"), ("path_prefix", .text "/posts"),
    ("slugField", .text "slug"),
    ("references", .list [.object [("field_name", .text "author"), ("mode", .text "embed"),
      ("references", .list [.object [("fieldName", .text "posts"), ("nested", .null)]])]]),
    ("category", .null),
    ("components", .object [("item_page", .text "Yes"), ("cardWidget", .int 1)])]

/-- The entry that is read from it. -/
def plainEntry : Entry :=
  ⟨"Posts", "/posts", "slug", [⟨"author", .embed, [⟨"posts", .link, []⟩]⟩], none,
    some ⟨true, false, false, false, true⟩⟩

/-- A collection in a document that names the target of a reference in the metadata of its type. -/
def looseCollection : Value :=
  .object [("_id", .text "Posts"), ("fields", .list [.object [("key", .text "author"),
    ("type", .text "REFERENCE"), ("typeMetadata", .object [("reference",
      .object [("referencedCollectionId", .text "Authors")])])]])]

/-- The collection that is read from it. -/
def plainCollection : Collection :=
  ⟨"Posts", none, [⟨"author", none, "REFERENCE", false, some "Authors"⟩]⟩

lemma read_looseEntry : Entry.read #[] looseEntry = .ok plainEntry := rfl

lemma read_looseCollection : Collection.read looseCollection = .ok plainCollection := rfl

/-- A directive with as many directives inside one another as told. -/
def nestedTo : Nat → Directive
  | 0 => ⟨"author", .embed, []⟩
  | n + 1 => ⟨"author", .embed, [nestedTo n]⟩

/-- An entry with such a directive. -/
def deepEntry (n : Nat) : Entry := ⟨"Posts", "/posts", "slug", [nestedTo n], none, none⟩

lemma depthOf_deepEntry (n : Nat) : depthOf (deepEntry n).references = n + 1 := by
  induction n with
  | zero => rfl
  | succ n ih =>
      change depthOf [⟨"author", .embed, (deepEntry n).references⟩] = _
      rw [depthOf, Directive.depth_eq, ih]
      rfl

end Sample

theorem written_form_reads_back_sample :
    Entry.read #[] Sample.looseEntry = .ok Sample.plainEntry ∧
      Entry.read #[] Sample.plainEntry.toValue = .ok Sample.plainEntry ∧
      Collection.read Sample.looseCollection = .ok Sample.plainCollection ∧
      Collection.read Sample.plainCollection.toValue = .ok Sample.plainCollection := by
  obtain ⟨-, -, hentry, hcollection⟩ := written_form_reads_back
  exact ⟨Sample.read_looseEntry, hentry _ _ _ _ Sample.read_looseEntry,
    Sample.read_looseCollection, hcollection _ _ Sample.read_looseCollection⟩

/-- **Directives may be nested too deep to be read back**: one more inside one another than readers
go, and the written entry is refused. -/
theorem written_form_refused :
    depthOf (Sample.deepEntry 254).references = 255 ∧
      ∃ ps, Entry.read #[] (Sample.deepEntry 254).toValue = .error ps ∧
        ∀ p ∈ ps, p.cause = .tooDeep := by
  have hdepth := Sample.depthOf_deepEntry 254
  have hnot : Entry.read #[] (Sample.deepEntry 254).toValue ≠ .ok (Sample.deepEntry 254) := by
    rw [Ne, Entry.read_toValue_iff, hdepth]
    decide
  exact ⟨hdepth, (Entry.unless_read #[] _).exists_of_ne hnot⟩

end WidgetContracts
