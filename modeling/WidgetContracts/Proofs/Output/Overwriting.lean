/-
Which contracts keep their files when several are written to one folder.

* `WritesAll`, `writeContracts_complete`: a writing without fault has written the file of every
  contract, one after another, and gives their paths in the same order.
* `WritesAll.content?_eq`: the last contract whose path leads to a place has its content there.
* `Written.Keeps`: no contract is lost.
* `keeps_iff_nodup_locate`: no contract is lost exactly when no two paths lead to the same place.
* `nodup_locate_iff_nodup_names`: names without slashes lead to the same place only if they are the
  same.
-/
import Mathlib.Data.List.Nodup
import WidgetContracts.Output
import WidgetContracts.Proofs.FileTree.Writing

namespace WidgetContracts

/-! ### A writing without fault -/

/-- The files of contracts are written to a folder, one after another, which makes one tree out of
another. -/
inductive WritesAll (folder : Path) : FileTree → List Descriptor → FileTree → Prop
  | nil {t : FileTree} : WritesAll folder t [] t
  | cons {t t' u : FileTree} {d : Descriptor} {r : List Descriptor}
      (write : t.write (contractPath folder d) d.content = .ok t')
      (rest : WritesAll folder t' r u) : WritesAll folder t (d :: r) u

variable {folder : Path} {t u : FileTree} {ds : List Descriptor}

lemma writeEach_complete (h : (writeEach folder t ds).fault = none) :
    (writeEach folder t ds).paths = ds.map (contractPath folder) ∧
      WritesAll folder t ds (writeEach folder t ds).tree := by
  induction ds generalizing t with
  | nil => exact ⟨rfl, .nil⟩
  | cons d r ih =>
      simp only [writeEach] at h ⊢
      cases hw : t.write (contractPath folder d) d.content with
      | error fault =>
          simp only [hw] at h
          cases h
      | ok t' =>
          simp only [hw] at h ⊢
          obtain ⟨hpaths, hrest⟩ := ih h
          exact ⟨by rw [hpaths, List.map_cons], .cons hw hrest⟩

/-- A writing without fault gives the paths of all contracts and has written all their files. -/
theorem writeContracts_complete (h : (writeContracts folder t ds).fault = none) :
    (writeContracts folder t ds).paths = ds.map (contractPath folder) ∧
      ∃ t', WritesAll folder t' ds (writeContracts folder t ds).tree := by
  rw [writeContracts] at h ⊢
  split at h
  · obtain ⟨hpaths, hwrites⟩ := writeEach_complete h
    exact ⟨hpaths, _, hwrites⟩
  · cases h

namespace WritesAll

/-- Writing files keeps the folders. -/
lemma sameFolders (h : WritesAll folder t ds u) : t.SameFolders u := by
  induction h with
  | nil => exact .refl _
  | cons write _ ih => exact (FileTree.SameFolders.of_write write).trans ih

/-- The path of every contract leads somewhere. -/
lemma exists_locate (h : WritesAll folder t ds u) {d : Descriptor} (hd : d ∈ ds) :
    ∃ l, u.locate (contractPath folder d) = .ok l := by
  induction h with
  | nil => cases hd
  | cons write rest ih =>
      rcases List.mem_cons.mp hd with rfl | hd
      · obtain ⟨l, hl, -⟩ := FileTree.write_eq_ok_iff.mp write
        exact ⟨l, rest.sameFolders.locate ((FileTree.SameFolders.of_write write).locate hl)⟩
      · exact ih hd

/-- A place to which no path of the contracts leads stays as it is. -/
lemma at?_eq (h : WritesAll folder t ds u) {l : Location}
    (hl : ∀ d ∈ ds, u.locate (contractPath folder d) ≠ .ok l) : u.at? l = t.at? l := by
  induction h with
  | nil => rfl
  | @cons t t' u d r write rest ih =>
      rw [List.forall_mem_cons] at hl
      rw [ih hl.2]
      obtain ⟨m, hm, -, rfl⟩ := FileTree.write_eq_ok_iff.mp write
      refine FileTree.at?_put_of_ne t ?_ _
      rintro rfl
      exact hl.1 (rest.sameFolders.locate ((FileTree.SameFolders.of_write write).locate hm))

/-- **The last one wins**: a contract after which no other is written to the same place has its
content there. -/
theorem content?_eq (h : WritesAll folder t ds u) {before after : List Descriptor} {d : Descriptor}
    (hds : ds = before ++ d :: after)
    (hlast : ∀ x ∈ after,
      u.locate (contractPath folder x) ≠ u.locate (contractPath folder d)) :
    u.content? (contractPath folder d) = some d.content := by
  induction h generalizing before with
  | nil => simp at hds
  | @cons t t' u x r write rest ih =>
      cases before with
      | cons b before =>
          rw [List.cons_append, List.cons.injEq] at hds
          exact ih hds.2 hlast
      | nil =>
          rw [List.nil_append, List.cons.injEq] at hds
          obtain ⟨rfl, rfl⟩ := hds
          obtain ⟨l, hl, hno, rfl⟩ := FileTree.write_eq_ok_iff.mp write
          -- no later write leads to `l`, so that the content put there now is there at the end
          have hend : u.locate (contractPath folder x) = .ok l :=
            rest.sameFolders.locate ((FileTree.SameFolders.of_write write).locate hl)
          have hne : l ≠ [] := by
            rintro rfl
            exact hno rfl
          refine FileTree.content?_of_locate hend ?_
          rw [rest.at?_eq fun y hy => hend ▸ hlast y hy]
          exact FileTree.at?_put t hne _

end WritesAll

/-! ### No contract is lost -/

/-- No contract is lost: the paths are pairwise distinct, and the file at each of them has the
content of the contract in the same position. -/
def Written.Keeps (w : Written) (ds : List Descriptor) : Prop :=
  w.paths.Nodup ∧ List.Forall₂ (fun p d => w.tree.content? p = some d.content) w.paths ds

/-- The content of a contract begins with its name. -/
lemma name_eq_of_content_eq {d d' : Descriptor} (hd : '\n' ∉ d.name.toList)
    (hd' : '\n' ∉ d'.name.toList) (h : d.content = d'.content) : d.name = d'.name := by
  have hcontent : ∀ x : Descriptor, '\n' ∉ x.name.toList →
      (x.content.toList.drop "name: ".toList.length).takeWhile (· != '\n') = x.name.toList := by
    intro x hx
    have hline : ∀ c ∈ x.name.toList, (c != '\n') = true := by
      intro c hc
      rw [bne_iff_ne]
      rintro rfl
      exact hx hc
    have hsplit : x.content.toList = "name: ".toList ++ (x.name.toList ++
        '\n' :: ("description: " ++ x.description ++ "\ntags:\n" ++ x.body ++ "\n").toList) := by
      simp [Descriptor.content, Descriptor.render, String.toList_append]
    rw [hsplit, List.drop_left, List.takeWhile_append_of_pos hline,
      List.takeWhile_cons_of_neg (by simp), List.append_nil]
  have hnames := hcontent d hd
  rw [h, hcontent d' hd'] at hnames
  exact String.toList_inj.mp hnames.symm

section

variable {w : Written}

/-- No contract is lost exactly when no two paths lead to the same place, provided that names are
lines. -/
theorem keeps_iff_nodup_locate (hpaths : w.paths = ds.map (contractPath folder))
    (hwrites : WritesAll folder t ds w.tree) (hlines : ∀ d ∈ ds, '\n' ∉ d.name.toList) :
    w.Keeps ds ↔ (w.paths.map w.tree.locate).Nodup := by
  constructor
  · rintro ⟨hnodup, hcontent⟩
    rw [hpaths, List.forall₂_map_left_iff, List.forall₂_same] at hcontent
    refine List.Nodup.map_on ?_ hnodup
    intro p hp q hq hpq
    rw [hpaths] at hp hq
    obtain ⟨d, hd, rfl⟩ := List.mem_map.mp hp
    obtain ⟨d', hd', rfl⟩ := List.mem_map.mp hq
    -- one place holds one content, which begins with the name, and the name makes the path
    have hsame : d.content = d'.content := by
      have h := FileTree.content?_congr hpq
      rw [hcontent d hd, hcontent d' hd'] at h
      exact Option.some.inj h
    rw [contractPath, contractPath, name_eq_of_content_eq (hlines d hd) (hlines d' hd') hsame]
  · intro hnodup
    refine ⟨hnodup.of_map _, ?_⟩
    rw [hpaths, List.Nodup, List.pairwise_map, List.pairwise_map] at hnodup
    rw [hpaths, List.forall₂_map_left_iff, List.forall₂_same]
    intro d hd
    obtain ⟨before, after, rfl⟩ := List.append_of_mem hd
    refine hwrites.content?_eq rfl fun x hx => ?_
    have htail := (List.pairwise_append.mp hnodup).2.1
    exact (List.rel_of_pairwise_cons htail hx).symm

end

/-! ### Names without slashes -/

lemma append_contractSuffix_ne (name : String) {s : String}
    (hs : s.length < contractSuffix.length) : name ++ contractSuffix ≠ s := by
  rintro rfl
  rw [String.length_append] at hs
  omega

/-- The path of a contract whose name has no slash ends in that name. -/
lemma contractPath_of_notMem {d : Descriptor} (hslash : '/' ∉ d.name.toList) :
    contractPath folder d = ⟨folder.root, folder.steps ++ [d.name ++ contractSuffix]⟩ := by
  have hname : '/' ∉ (d.name ++ contractSuffix).toList := by
    rw [String.toList_append, List.mem_append, not_or]
    exact ⟨hslash, by decide⟩
  rw [contractPath, Path.ofText_of_notMem hname (append_contractSuffix_ne _ (by decide))
    (append_contractSuffix_ne _ (by decide))]
  rfl

/-- Paths of names without slashes lead to the same place only if the names are the same. -/
theorem nodup_locate_iff_nodup_names (hwrites : WritesAll folder t ds u)
    (hslash : ∀ d ∈ ds, '/' ∉ d.name.toList) :
    ((ds.map (contractPath folder)).map u.locate).Nodup ↔ (ds.map (·.name)).Nodup := by
  have hplace : ∀ d ∈ ds, ∃ l, u.locate (contractPath folder d) = .ok l ∧
      l.getLast? = some (d.name ++ contractSuffix) := by
    intro d hd
    obtain ⟨l, hl⟩ := hwrites.exists_locate hd
    have hwalk := FileTree.walk_of_locate hl
    rw [contractPath_of_notMem (hslash d hd)] at hwalk
    exact ⟨l, hl, FileTree.getLast?_of_walk hwalk (append_contractSuffix_ne _ (by decide))⟩
  rw [List.Nodup, List.Nodup, List.pairwise_map, List.pairwise_map, List.pairwise_map]
  refine List.Pairwise.iff_of_mem fun {d d'} hd hd' => not_congr ⟨fun h => ?_, fun h => ?_⟩
  · obtain ⟨l, hl, hlast⟩ := hplace d hd
    obtain ⟨l', hl', hlast'⟩ := hplace d' hd'
    obtain rfl : l = l' := Except.ok.inj (hl.symm.trans (h.trans hl'))
    exact (String.append_left_inj contractSuffix).mp (Option.some.inj (hlast.symm.trans hlast'))
  · rw [contractPath, contractPath, h]

end WidgetContracts
