/-
When publishing a configuration keeps every contract.

* `publish_eq_ok_iff`: what it means that it comes to writing.
* `Entry.shapeIds`: the identifiers that name the contracts of an entry.
* `publish_keeps_iff`: a contract is lost exactly when two of the files are one, which happens to
  names without slashes exactly when two identifiers run together to the same words.
* `publish_loses_twins`: two such identifiers, neither of which is refused.
-/
import WidgetContracts.Proofs.Generate.Batch
import WidgetContracts.Proofs.Naming.Laws
import WidgetContracts.Proofs.Output.Overwriting
import WidgetContracts.Publish

namespace WidgetContracts

/-- It comes to writing when the configuration loads and the batch does not fail. -/
lemma publish_eq_ok_iff {source : Source} {path : String} {file : Option (List UInt8)}
    {folder : Path} {t : FileTree} {w : Written} :
    (publish source path file folder t).value = .ok w ↔ ∃ es batch,
      (Configuration.load path file).value = .ok es ∧
        (generateAll source es).value = .ok batch ∧
          w = writeContracts folder t batch.descriptors := by
  rw [publish, Traced.bind_value]
  cases hload : (Configuration.load path file).value with
  | error fault => simp
  | ok es =>
      simp only [Traced.bind_value]
      cases hbatch : (generateAll source es).value with
      | error fault => simp [hbatch]
      | ok batch => simp [hbatch, eq_comm]

/-! ### Names of contracts -/

/-- The names of one widget are distinct exactly when the words of the identifiers are. -/
lemma nodup_contractNames_iff (w : Widget) (ids : List String) :
    (ids.map (contractName · w)).Nodup ↔
      (ids.map fun id => Naming.pascalCase id.toList).Nodup := by
  have hinj : Function.Injective fun cs : List Char => String.ofList cs ++ w.word := by
    intro cs cs' h
    exact String.ofList_injective ((String.append_left_inj w.word).mp h)
  rw [← List.nodup_map_iff hinj, List.map_map]
  rfl

/-! ### Names of a batch -/

/-- The identifiers that name the contracts of a widget which an entry gives: that of its shape, if
the entry asks for the widget and its collection can be had. -/
def Entry.shapeIds (source : Source) (w : Widget) (e : Entry) : List String :=
  if e.asksFor w then ((shapeOf source e).value.map (·.collectionId)).toList else []

lemma Entry.map_name_contracts (source : Source) (w : Widget) (e : Entry) :
    (e.contracts source w).map (·.name) = (e.shapeIds source w).map (contractName · w) := by
  rw [contracts, shapeIds]
  split
  · cases (shapeOf source e).value <;> rfl
  · rfl

section

variable {source : Source} {es : List Entry} {batch : Batch}

/-- The contracts of a batch are named by the identifiers of the shapes. -/
lemma map_name_batch (h : (generateAll source es).value = .ok batch) (w : Widget) :
    (batch w).map (·.name) =
      ((acceptedEntries es).value.flatMap (Entry.shapeIds source w)).map (contractName · w) := by
  rw [generateAll_value] at h
  obtain rfl := Except.ok.inj h
  rw [List.map_flatMap, List.map_flatMap]
  exact List.flatMap_congr fun e _ => e.map_name_contracts source w

lemma map_name_descriptors (b : Batch) :
    b.descriptors.map (·.name) = Widget.all.flatMap fun w => (b w).map (·.name) := by
  rw [Batch.descriptors, List.map_flatMap]
  exact List.flatMap_congr fun w _ => List.map_map

/-- Every contract of a batch has the name of a contract of its widget. -/
lemma exists_name_of_mem_batch (h : (generateAll source es).value = .ok batch) {w : Widget}
    {name : String} (hname : name ∈ (batch w).map (·.name)) : ∃ id, name = contractName id w := by
  rw [map_name_batch h] at hname
  obtain ⟨id, -, rfl⟩ := List.mem_map.mp hname
  exact ⟨id, rfl⟩

/-- The names of the contracts of a batch are lines. -/
lemma lf_notMem_descriptors (h : (generateAll source es).value = .ok batch) :
    ∀ d ∈ batch.descriptors, '\n' ∉ d.name.toList := by
  intro d hd
  have hname := List.mem_map_of_mem (f := (·.name)) hd
  rw [map_name_descriptors, List.mem_flatMap] at hname
  obtain ⟨w, -, hw⟩ := hname
  obtain ⟨id, hid⟩ := exists_name_of_mem_batch h hw
  rw [hid]
  exact lf_notMem_contractName id w

/-- The names of a batch are distinct exactly when, for each widget, the words of the identifiers
are. -/
lemma nodup_names_iff (h : (generateAll source es).value = .ok batch) :
    (batch.descriptors.map (·.name)).Nodup ↔ ∀ w : Widget,
      (((acceptedEntries es).value.flatMap (Entry.shapeIds source w)).map fun id =>
        Naming.pascalCase id.toList).Nodup := by
  have hdisjoint : Widget.all.Pairwise
      (Function.onFun List.Disjoint fun w => (batch w).map (·.name)) := by
    refine List.Nodup.pairwise_of_forall_ne (by decide) ?_
    intro w _ w' _ hne name hw hw'
    obtain ⟨id, rfl⟩ := exists_name_of_mem_batch h hw
    obtain ⟨id', hid'⟩ := exists_name_of_mem_batch h hw'
    exact hne (widget_eq_of_contractName_eq hid')
  -- names of different widgets never meet, so that each widget counts for itself
  rw [map_name_descriptors, List.nodup_flatMap, and_iff_left hdisjoint]
  constructor
  · intro hall w
    rw [← nodup_contractNames_iff w, ← map_name_batch h]
    exact hall w w.mem_all
  · intro hall w _
    rw [map_name_batch h, nodup_contractNames_iff]
    exact hall w

end

/-! ### Publishing -/

section

variable {source : Source} {path : String} {file : Option (List UInt8)} {folder : Path}
  {t : FileTree} {w : Written}

/-- The contracts of a batch are kept exactly when no two of their paths lead to the same place. -/
lemma keeps_descriptors_iff {es : List Entry} {batch : Batch}
    (hbatch : (generateAll source es).value = .ok batch)
    (hw : w = writeContracts folder t batch.descriptors) (hdone : w.fault = none) :
    w.Keeps batch.descriptors ↔ (w.paths.map w.tree.locate).Nodup := by
  subst hw
  obtain ⟨hpaths, t', hwrites⟩ := writeContracts_complete hdone
  exact keeps_iff_nodup_locate hpaths hwrites (lf_notMem_descriptors hbatch)

/-- If their names have no slashes, the contracts are kept exactly when the names are distinct. -/
lemma keeps_descriptors_iff_names {es : List Entry} {batch : Batch}
    (hbatch : (generateAll source es).value = .ok batch)
    (hw : w = writeContracts folder t batch.descriptors) (hdone : w.fault = none)
    (hslash : ∀ d ∈ batch.descriptors, '/' ∉ d.name.toList) :
    w.Keeps batch.descriptors ↔ (batch.descriptors.map (·.name)).Nodup := by
  rw [keeps_descriptors_iff hbatch hw hdone]
  subst hw
  obtain ⟨hpaths, t', hwrites⟩ := writeContracts_complete hdone
  rw [hpaths, nodup_locate_iff_nodup_names hwrites hslash]

/-- **When every contract is kept**: where publishing ends without a fault, the paths are those of
all contracts of the batch, in order, and no contract is lost exactly when no two of the paths lead
to the same place. Names without slashes lead to different places unless they are the same, so that
a contract is lost exactly when, for some widget, the identifiers of two shapes run together to the
same words. -/
theorem publish_keeps_iff (hrun : (publish source path file folder t).value = .ok w)
    (hdone : w.fault = none) :
    ∃ es batch, (Configuration.load path file).value = .ok es ∧
      (generateAll source es).value = .ok batch ∧
      w.paths = batch.descriptors.map (contractPath folder) ∧
      (w.Keeps batch.descriptors ↔ (w.paths.map w.tree.locate).Nodup) ∧
      ((∀ d ∈ batch.descriptors, '/' ∉ d.name.toList) →
        (w.Keeps batch.descriptors ↔ ∀ k : Widget,
          (((acceptedEntries es).value.flatMap (Entry.shapeIds source k)).map fun id =>
            Naming.pascalCase id.toList).Nodup)) := by
  obtain ⟨es, batch, hload, hbatch, hw⟩ := publish_eq_ok_iff.mp hrun
  refine ⟨es, batch, hload, hbatch, ?_, keeps_descriptors_iff hbatch hw hdone, fun hslash => ?_⟩
  · subst hw
    exact (writeContracts_complete hdone).1
  · rw [keeps_descriptors_iff_names hbatch hw hdone hslash]
    exact nodup_names_iff hbatch

end

/-! ### Two shops -/

namespace Sample

/-- A store with a collection without fields under each of three identifiers. -/
def shopStore : Store := fun id =>
  if id = "my-store" ∨ id = "my_store" ∨ id = "my-shop" then
    .document (Collection.toValue ⟨id, none, []⟩)
  else .missing

/-- The store of the shops, asked with a limit of ten seconds. -/
def shopSource : Source :=
  ⟨shopStore, ⟨"key", none, "https://data.example.test", 10⟩, some 10⟩

/-- A configuration that asks for the pages of items of two collections. -/
def shopLines (first second : String) : List String :=
  ["collections:", "- collectionId: " ++ first, "  pathPrefix: /a", "  slugField: name",
    "  components:", "    itemPage: true", "- collectionId: " ++ second, "  pathPrefix: /b",
    "  slugField: name", "  components:", "    itemPage: true"]

/-- The bytes of the configuration. -/
def shopFile (first second : String) : List UInt8 :=
  (shopLines first second).flatMap fun line => Text.Utf8.encode (line.toList ++ ['\n'])

/-- The two collections published in a folder of an empty tree. -/
def publishShops (first second : String) : Traced (Except PublishFault Written) :=
  publish shopSource "collections.yaml" (some (shopFile first second)) (.ofText "out")
    (.empty ["work"])

/-- The configuration of two collections, loaded. -/
def loadShops (first second : String) : Traced (Except ConfigFault (List Entry)) :=
  Configuration.load "collections.yaml" (some (shopFile first second))

/-- The identifiers of the entries, how many of them may be processed, how publishing ends, and the
names of the contracts. -/
def shopAccount (first second : String) :
    Option (List String × Nat × Option PathFault × List String) := do
  let es ← (loadShops first second).value.toOption
  let batch ← (generateAll shopSource es).value.toOption
  let w := writeContracts (.ofText "out") (.empty ["work"]) batch.descriptors
  return (es.map (·.collectionId), (acceptedEntries es).value.length, w.fault,
    batch.descriptors.map (·.name))

lemma exists_of_shopAccount {first second : String} {ids names : List String} {n : Nat}
    (h : shopAccount first second = some (ids, n, none, names))
    (hslash : ∀ name ∈ names, '/' ∉ name.toList) :
    ∃ es batch w, (loadShops first second).value = .ok es ∧ es.map (·.collectionId) = ids ∧
      (acceptedEntries es).value.length = n ∧ (generateAll shopSource es).value = .ok batch ∧
      (∀ d ∈ batch.descriptors, '/' ∉ d.name.toList) ∧
      (publishShops first second).value = .ok w ∧ w.fault = none ∧
      (w.Keeps batch.descriptors ↔ names.Nodup) := by
  rw [shopAccount] at h
  cases hload : (loadShops first second).value with
  | error fault =>
      rw [hload] at h
      cases h
  | ok es =>
      cases hbatch : (generateAll shopSource es).value with
      | error fault => simp [hload, hbatch, Except.toOption] at h
      | ok batch =>
          simp only [hload, hbatch, Except.toOption, Option.bind_some, bind, pure,
            Option.some.injEq, Prod.mk.injEq] at h
          obtain ⟨hids, haccepted, hdone, rfl⟩ := h
          have hplain : ∀ d ∈ batch.descriptors, '/' ∉ d.name.toList :=
            fun d hd => hslash d.name (List.mem_map_of_mem hd)
          exact ⟨es, batch, _, rfl, hids, haccepted, hbatch, hplain,
            publish_eq_ok_iff.mpr ⟨es, batch, hload, hbatch, rfl⟩, hdone,
            keeps_descriptors_iff_names hbatch rfl hdone hplain⟩

lemma shopAccount_twins : shopAccount "my-store" "my_store" =
    some (["my-store", "my_store"], 2, none, ["MyStoreItem", "MyStoreItem"]) := by
  decide +kernel

lemma shopAccount_neighbours : shopAccount "my-store" "my-shop" =
    some (["my-store", "my-shop"], 2, none, ["MyStoreItem", "MyShopItem"]) := by
  decide +kernel

end Sample

theorem publish_keeps_iff_sample :
    ∃ es batch w, (Sample.publishShops "my-store" "my-shop").value = .ok w ∧ w.fault = none ∧
      (Sample.loadShops "my-store" "my-shop").value = .ok es ∧
      (generateAll Sample.shopSource es).value = .ok batch ∧
      (∀ d ∈ batch.descriptors, '/' ∉ d.name.toList) ∧ w.Keeps batch.descriptors ∧
      ∀ k : Widget,
        (((acceptedEntries es).value.flatMap (Entry.shapeIds Sample.shopSource k)).map fun id =>
          Naming.pascalCase id.toList).Nodup := by
  obtain ⟨es, batch, w, hload, -, -, hbatch, hslash, hrun, hdone, hkeeps⟩ :=
    Sample.exists_of_shopAccount Sample.shopAccount_neighbours (by decide)
  have hkept : w.Keeps batch.descriptors := hkeeps.mpr (by decide)
  obtain ⟨es', batch', hload', hbatch', -, -, hnames⟩ := publish_keeps_iff hrun hdone
  obtain rfl : es = es' := Except.ok.inj (hload.symm.trans hload')
  obtain rfl : batch = batch' := Except.ok.inj (hbatch.symm.trans hbatch')
  exact ⟨es, batch, w, hrun, hdone, hload, hbatch, hslash, hkept, (hnames hslash).mp hkept⟩

/-- **Contracts may be lost**: two entries with different identifiers, both of which may be
processed, are published without a fault, and one contract takes the place of the other. -/
theorem publish_loses_twins :
    ∃ es batch w, (Sample.loadShops "my-store" "my_store").value = .ok es ∧
      es.map (·.collectionId) = ["my-store", "my_store"] ∧
      (acceptedEntries es).value.length = 2 ∧
      (generateAll Sample.shopSource es).value = .ok batch ∧
      (Sample.publishShops "my-store" "my_store").value = .ok w ∧ w.fault = none ∧
      ¬w.Keeps batch.descriptors := by
  obtain ⟨es, batch, w, hload, hids, haccepted, hbatch, -, hrun, hdone, hkeeps⟩ :=
    Sample.exists_of_shopAccount Sample.shopAccount_twins (by decide)
  refine ⟨es, batch, w, hload, hids, haccepted, hbatch, hrun, hdone, ?_⟩
  rw [hkeeps]
  decide

end WidgetContracts
