/-
Making folders, and following paths through them.

* `FileTree.KeepsFolders.put_folder`: a new folder leaves the others.
* `FileTree.HasFolder`, `FileTree.hasFolder_of_makeFolders`: a folder that can be made, or is there
  already, is there in the end.
* `FileTree.walk_append`: steps through a folder go on from there.
-/
import WidgetContracts.Proofs.FileTree.Writing

namespace WidgetContracts.FileTree

variable {t u : FileTree} {l m : Location} {p : Path}

/-- A path leads to a folder. -/
def HasFolder (t : FileTree) (p : Path) : Prop := ∃ l, t.locate p = .ok l ∧ t.at? l = some .folder

lemma at?_put_folder (t : FileTree) (l : Location) : (t.put l .folder).at? l = some .folder := by
  by_cases h : l = []
  · rw [h]
    rfl
  · exact at?_put t h _

/-- A new folder leaves the others. -/
lemma KeepsFolders.put_folder (t : FileTree) (l : Location) : t.KeepsFolders (t.put l .folder) := by
  refine ⟨rfl, fun m hm => ?_⟩
  by_cases h : m = l
  · rw [h]
    exact at?_put_folder t l
  · rw [at?_put_of_ne t h, hm]

lemma isFolder_iff : t.isFolder p = true ↔ t.HasFolder p := by
  rw [isFolder, HasFolder]
  cases t.locate p with
  | error fault => simp
  | ok l => simp

/-- A folder is made where the path leads to a place with nothing there. -/
lemma makeFolder_eq_ok_iff : t.makeFolder p = .ok u ↔
    ∃ l, t.locate p = .ok l ∧ t.at? l = none ∧ u = t.put l .folder := by
  rw [makeFolder]
  cases hl : t.locate p with
  | error fault => simp [bind, Except.bind]
  | ok l =>
      simp only [bind, Except.bind, Except.ok.injEq, exists_eq_left']
      cases hat : t.at? l with
      | some item => simp [throw, throwThe, MonadExceptOf.throw]
      | none => simp [pure, Except.pure, eq_comm]

/-- A folder that was ensured is there. -/
lemma hasFolder_of_ensureFolder (h : t.ensureFolder p = (u, none)) : u.HasFolder p := by
  rw [ensureFolder] at h
  cases hmake : t.makeFolder p with
  | error fault =>
      rw [hmake] at h
      obtain ⟨rfl, hfault⟩ := Prod.mk.inj h
      split at hfault
      · next hthere => exact isFolder_iff.mp hthere.2
      · cases hfault
  | ok t' =>
      rw [hmake] at h
      obtain ⟨rfl, -⟩ := Prod.mk.inj h
      obtain ⟨l, hl, -, rfl⟩ := makeFolder_eq_ok_iff.mp hmake
      exact ⟨l, (KeepsFolders.put_folder t l).locate hl, at?_put_folder t l⟩

/-- Where a folder can be made with all those above it, or is there already, it is there in the
end: the last thing to be ensured is the folder itself. -/
theorem hasFolder_of_makeFolders (h : t.makeFolders p = (u, none)) : u.HasFolder p := by
  rw [makeFolders] at h
  generalize p.steps.length = fuel at h
  cases fuel with
  | zero => exact hasFolder_of_ensureFolder h
  | succ fuel =>
      rw [makeFoldersUp] at h
      split at h
      · split at h
        · exact hasFolder_of_ensureFolder h
        · next hup => exact absurd h (hup u)
      · exact hasFolder_of_ensureFolder h

/-- Steps through a folder go on from there. -/
theorem walk_append {xs ys : List String} (hw : t.walk l xs = .ok m)
    (hat : t.at? m = some .folder) : t.walk l (xs ++ ys) = t.walk m ys := by
  induction xs generalizing l with
  | nil =>
      obtain rfl := Except.ok.inj hw
      rfl
  | cons step r ih =>
      simp only [List.cons_append, walk] at hw ⊢
      by_cases hup : step = ".."
      · rw [if_pos hup] at hw ⊢
        exact ih hw
      rw [if_neg hup] at hw ⊢
      by_cases hlong : isLongName step = true
      · rw [if_pos hlong] at hw
        cases hw
      rw [if_neg hlong] at hw ⊢
      cases r with
      | nil =>
          obtain rfl := Except.ok.inj hw
          cases ys with
          | nil => rfl
          | cons y ys => simp [hat]
      | cons next r =>
          simp only [List.isEmpty_cons, Bool.false_eq_true, if_false, List.cons_append] at hw ⊢
          cases hthere : t.at? (l ++ [step]) with
          | none =>
              rw [hthere] at hw
              cases hw
          | some item =>
              rw [hthere] at hw
              cases item with
              | file content => cases hw
              | folder => exact ih hw

end WidgetContracts.FileTree
