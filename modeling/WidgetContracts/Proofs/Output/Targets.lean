/-
What writing contracts changes in a tree: the files of their names, and nothing else.

* `WritesAll.writeEach_eq`: writing all contracts is what a writing without fault does.
* `WritesAll.put_of_target`, `WritesAll.again`: a file that will be written may have any content
  before, so that writing the same contracts again changes nothing.
* `Written.IsExact`: the paths, the contents, what stays, and what comes of a repetition.
* `Written.Halts`: how a writing ends early.
* `writing_is_exact`: a writing without fault is exact, and one with a fault has written the
  contracts up to the one that cannot be written.
-/
import WidgetContracts.Proofs.FileTree.Rewriting
import WidgetContracts.Proofs.Output.Confinement

namespace WidgetContracts

variable {folder : Path} {t u : FileTree} {ds : List Descriptor} {home l : Location}

/-! ### Writing again -/

namespace WritesAll

/-- Writing all contracts is what a writing without fault does. -/
lemma writeEach_eq (h : WritesAll folder t ds u) :
    writeEach folder t ds = ⟨ds.map (contractPath folder), u, none⟩ := by
  induction h with
  | nil => rfl
  | cons write _ ih => simp [writeEach, write, ih]

/-- Where a file stands, there is a file after the writing. -/
lemma exists_file (h : WritesAll folder t ds u) {content : String}
    (hat : t.at? l = some (.file content)) : ∃ content', u.at? l = some (.file content') := by
  induction h generalizing content with
  | nil => exact ⟨content, hat⟩
  | @cons t t' u d r write rest ih =>
      obtain ⟨m, -, -, rfl⟩ := FileTree.write_eq_ok_iff.mp write
      by_cases hm : l = m
      · subst hm
        have hne : l ≠ [] := by
          rintro rfl
          cases hat
        exact ih (FileTree.at?_put t hne _)
      · exact ih ((FileTree.at?_put_of_ne t hm _).trans hat)

/-- A file that will be written may have any content before. -/
lemma put_of_target (h : WritesAll folder t ds u) {old : String} (new : String)
    (hat : t.at? l = some (.file old))
    (htarget : ∃ d ∈ ds, t.locate (contractPath folder d) = .ok l) :
    WritesAll folder (t.put l (.file new)) ds u := by
  induction h generalizing old with
  | nil =>
      obtain ⟨d, hd, -⟩ := htarget
      cases hd
  | @cons t t' u d r write rest ih =>
      obtain ⟨m, hm, hno, rfl⟩ := FileTree.write_eq_ok_iff.mp write
      have hsame : t.SameFolders (t.put l (.file new)) := .put (by simp [hat])
      have hno' : (t.put l (.file new)).at? m ≠ some .folder := mt (hsame.folder m).mpr hno
      by_cases hml : m = l
      · -- this write replaces what was put
        subst hml
        refine .cons (FileTree.write_eq_ok_iff.mpr ⟨m, hsame.locate hm, hno', ?_⟩) rest
        rw [FileTree.put_put]
      · -- the write goes elsewhere, and may as well come first
        have hsame' := FileTree.SameFolders.of_write write
        have hlater : ∃ x ∈ r, (t.put m (.file d.content)).locate (contractPath folder x) =
            .ok l := by
          obtain ⟨x, hx, hl⟩ := htarget
          rcases List.mem_cons.mp hx with rfl | hx
          · exact absurd (Except.ok.inj (hm.symm.trans hl)) hml
          · exact ⟨x, hx, hsame'.locate hl⟩
        have hstill : (t.put m (.file d.content)).at? l = some (.file old) :=
          (FileTree.at?_put_of_ne t (Ne.symm hml) _).trans hat
        refine .cons (FileTree.write_eq_ok_iff.mpr ⟨m, hsame.locate hm, hno', ?_⟩)
          (ih hstill hlater)
        rw [FileTree.put_comm _ _ hml hat]

/-- Writing the same contracts again changes nothing. -/
theorem again (h : WritesAll folder t ds u) : WritesAll folder u ds u := by
  induction h with
  | nil => exact .nil
  | @cons t t' u d r write rest ih =>
      obtain ⟨l, hl, hno, rfl⟩ := FileTree.write_eq_ok_iff.mp write
      have hsame := (FileTree.SameFolders.of_write write).trans rest.sameFolders
      have hne : l ≠ [] := by
        rintro rfl
        exact hno rfl
      have hput : (t.put l (.file d.content)).at? l = some (.file d.content) :=
        FileTree.at?_put t hne _
      have hrest : WritesAll folder (u.put l (.file d.content)) r u := by
        by_cases htarget : ∃ x ∈ r, u.locate (contractPath folder x) = .ok l
        · obtain ⟨old, hold⟩ := rest.exists_file hput
          exact ih.put_of_target _ hold htarget
        · -- no later write leads to `l`, so that the content is there already
          push Not at htarget
          rw [FileTree.put_eq_self ((rest.at?_eq htarget).trans hput)]
          exact ih
      exact .cons (FileTree.write_eq_ok_iff.mpr
        ⟨l, hsame.locate hl, mt (hsame.folder l).mpr hno, rfl⟩) hrest

end WritesAll

/-! ### Exactly the files of the names -/

/-- The name of a contract's file. -/
def Descriptor.fileName (d : Descriptor) : String := d.name ++ contractSuffix

/-- Contracts have been written exactly, to a folder that stands at a place: the paths are those of
their names, each file has the content of the last contract of its name, elsewhere there is nothing
new but folders, and writing the same contracts again changes nothing. -/
structure Written.IsExact (w : Written) (folder : Path) (t : FileTree) (ds : List Descriptor)
    (home : Location) : Prop where
  here : w.tree.here = t.here
  stands : w.tree.locate folder = .ok home ∧ w.tree.at? home = some .folder
  paths : w.paths = ds.map fun d => ⟨folder.root, folder.steps ++ [d.fileName]⟩
  places : ∀ d ∈ ds,
    w.tree.locate ⟨folder.root, folder.steps ++ [d.fileName]⟩ = .ok (home ++ [d.fileName])
  contents : ∀ before d after, ds = before ++ d :: after → (∀ x ∈ after, x.name ≠ d.name) →
    w.tree.at? (home ++ [d.fileName]) = some (.file d.content)
  rest : ∀ l, (∀ d ∈ ds, l ≠ home ++ [d.fileName]) →
    w.tree.at? l = t.at? l ∨ t.at? l = none ∧ w.tree.at? l = some .folder
  again : writeContracts folder w.tree ds = w

/-- How the writing of contracts ends early: the folder cannot be made, and there is nothing new but
folders; or a contract cannot be written, and the tree is what the writing of those in front of it
leaves. -/
inductive Written.Halts (w : Written) (folder : Path) (t : FileTree) (ds : List Descriptor)
    (fault : PathFault) : Prop
  | folder (refused : t.makeFolders folder = (w.tree, some fault)) (none : w.paths = [])
      (gains : t.GainsFolders w.tree)
  | contract {done rest : List Descriptor} {d : Descriptor} (split : ds = done ++ d :: rest)
      (before : writeContracts folder t done = ⟨w.paths, w.tree, none⟩)
      (refused : w.tree.write (contractPath folder d) d.content = .error fault)

lemma fileName_injective {d d' : Descriptor} (h : d.fileName = d'.fileName) : d.name = d'.name :=
  (String.append_left_inj contractSuffix).mp h

section

variable (hhome : u.locate folder = .ok home) (hat : u.at? home = some .folder)
  (hslash : ∀ d ∈ ds, '/' ∉ d.name.toList)
include hhome hat hslash

/-- The contracts that were written have their files directly in the folder. -/
lemma WritesAll.locate_eq (h : WritesAll folder t ds u) {d : Descriptor} (hd : d ∈ ds) :
    u.locate (contractPath folder d) = .ok (home ++ [d.fileName]) := by
  obtain ⟨l, hl⟩ := h.exists_locate hd
  obtain ⟨rfl, -⟩ := (locate_contractPath_iff hhome hat (hslash d hd)).mp hl
  exact hl

/-- The last contract of a name has its content in the file of that name. -/
lemma WritesAll.at?_fileName (h : WritesAll folder t ds u) {before after : List Descriptor}
    {d : Descriptor} (hds : ds = before ++ d :: after) (hlast : ∀ x ∈ after, x.name ≠ d.name) :
    u.at? (home ++ [d.fileName]) = some (.file d.content) := by
  have hd : d ∈ ds := by simp [hds]
  have hplace := h.locate_eq hhome hat hslash hd
  refine FileTree.at?_of_content? hplace (h.content?_eq hds fun x hx hsame => hlast x hx ?_)
  have hx' : x ∈ ds := by simp [hds, hx]
  rw [h.locate_eq hhome hat hslash hx', hplace] at hsame
  exact fileName_injective (by simpa using hsame)

end

/-- A writing without fault is exact. -/
lemma exists_isExact (hslash : ∀ d ∈ ds, '/' ∉ d.name.toList)
    (hdone : (writeContracts folder t ds).fault = none) :
    ∃ home, (writeContracts folder t ds).IsExact folder t ds home := by
  rcases hmake : t.makeFolders folder with ⟨t', fault⟩
  have hgains : t.GainsFolders t' := by
    have h := t.gainsFolders_of_makeFolders folder
    rwa [hmake] at h
  cases fault with
  | some fault =>
      rw [writeContracts, hmake] at hdone
      cases hdone
  | none =>
      rw [writeContracts_eq hmake] at hdone ⊢
      obtain ⟨hpaths, hwrites⟩ := writeEach_complete hdone
      have hsame := hwrites.sameFolders
      obtain ⟨home, hhome', hat'⟩ := FileTree.hasFolder_of_makeFolders hmake
      have hhome := hsame.locate hhome'
      have hat := (hsame.folder home).mp hat'
      refine ⟨home, ?_, ⟨hhome, hat⟩, ?_, ?_, ?_, ?_, ?_⟩
      · exact hsame.here.symm.trans hgains.here
      · rw [hpaths]
        exact List.map_congr_left fun d hd => contractPath_of_notMem (hslash d hd)
      · intro d hd
        have hplace := hwrites.locate_eq hhome hat hslash hd
        rwa [contractPath_of_notMem (hslash d hd)] at hplace
      · exact fun before d after => hwrites.at?_fileName hhome hat hslash
      · intro l hl
        rw [hwrites.at?_eq fun d hd hlocate => hl d hd ?_]
        · exact hgains.place l
        · exact Except.ok.inj (hlocate.symm.trans (hwrites.locate_eq hhome hat hslash hd))
      · rw [writeContracts_eq (FileTree.makeFolders_of_hasFolder ⟨home, hhome, hat⟩),
          hwrites.again.writeEach_eq, hwrites.writeEach_eq]

/-- A writing with a fault has written the contracts up to the one that cannot be written. -/
lemma halts_of_fault {fault : PathFault}
    (hfault : (writeContracts folder t ds).fault = some fault) :
    (writeContracts folder t ds).Halts folder t ds fault := by
  rcases hmake : t.makeFolders folder with ⟨t', fault'⟩
  cases fault' with
  | some fault' =>
      have hw : writeContracts folder t ds = ⟨[], t', some fault'⟩ := by rw [writeContracts, hmake]
      rw [hw] at hfault ⊢
      obtain rfl := Option.some.inj hfault
      have hgains := t.gainsFolders_of_makeFolders folder
      rw [hmake] at hgains
      exact .folder hmake rfl hgains
  | none =>
      rw [writeContracts_eq hmake] at hfault ⊢
      obtain ⟨done, rest, hds, hpaths, hwrites, hends⟩ := exists_writesAll folder t' ds
      cases hends with
      | complete hdone => cases hdone.symm.trans hfault
      | halted refused broken =>
          obtain rfl := Option.some.inj (broken.symm.trans hfault)
          refine .contract hds ?_ refused
          rw [writeContracts_eq hmake, hwrites.writeEach_eq, hpaths]

/-- **Writing touches its targets only**: contracts whose names have no slashes are written to the
files of their names in the folder, the last one of a name staying, and nothing else changes but
that folders may be made where nothing was; to write them again changes nothing. Where the writing
ends early, the tree is what the contracts in front of the one that cannot be written make of it. -/
theorem writing_is_exact (hslash : ∀ d ∈ ds, '/' ∉ d.name.toList) :
    ((writeContracts folder t ds).fault = none →
      ∃ home, (writeContracts folder t ds).IsExact folder t ds home) ∧
    ∀ fault, (writeContracts folder t ds).fault = some fault →
      (writeContracts folder t ds).Halts folder t ds fault :=
  ⟨exists_isExact hslash, fun _ => halts_of_fault⟩

/-! ### A page that is written twice over an old one -/

namespace Sample

/-- A tree with an old contract in a folder, and a note beside it. -/
def usedTree : FileTree :=
  ⟨["work"],
    [(["work"], .folder), (["work", "out"], .folder),
      (["work", "out", "PostsItem.jay-contract"], .file "an old contract of some length"),
      (["work", "out", "note.txt"], .file "a note")]⟩

/-- Two versions of one contract, with another one between them. -/
def revisions : List Descriptor :=
  [⟨"PostsItem", "first", ""⟩, ⟨"AuthorsItem", "only", ""⟩, ⟨"PostsItem", "second", ""⟩]

/-- The same with a name in the middle that no file can have. -/
def spoiltRevisions : List Descriptor :=
  [⟨"PostsItem", "first", ""⟩, ⟨"Authors\x00Item", "only", ""⟩, ⟨"PostsItem", "second", ""⟩]

end Sample

theorem writing_is_exact_sample :
    (∀ d ∈ Sample.revisions, '/' ∉ d.name.toList) ∧
      (writeContracts (.ofText "out") Sample.usedTree Sample.revisions).fault = none ∧
      (∃ home, (writeContracts (.ofText "out") Sample.usedTree Sample.revisions).IsExact
        (.ofText "out") Sample.usedTree Sample.revisions home) ∧
      (∀ d ∈ Sample.spoiltRevisions, '/' ∉ d.name.toList) ∧
      (writeContracts (.ofText "out") Sample.usedTree Sample.spoiltRevisions).fault =
        some .nullCharacter ∧
      (writeContracts (.ofText "out") Sample.usedTree Sample.spoiltRevisions).Halts
        (.ofText "out") Sample.usedTree Sample.spoiltRevisions .nullCharacter := by
  have hslash : ∀ d ∈ Sample.revisions, '/' ∉ d.name.toList := by decide
  have hslash' : ∀ d ∈ Sample.spoiltRevisions, '/' ∉ d.name.toList := by decide
  have hdone : (writeContracts (.ofText "out") Sample.usedTree Sample.revisions).fault = none := by
    decide +kernel
  have hfault : (writeContracts (.ofText "out") Sample.usedTree Sample.spoiltRevisions).fault =
      some .nullCharacter := by
    decide +kernel
  exact ⟨hslash, hdone, (writing_is_exact hslash).1 hdone, hslash', hfault,
    (writing_is_exact hslash').2 _ hfault⟩

end WidgetContracts
