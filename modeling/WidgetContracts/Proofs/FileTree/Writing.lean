/-
What writing a file leaves.

* `FileTree.content?`: the content of the file to which a path leads.
* `FileTree.write_eq_ok_iff`: what a write that goes well has changed.
* `FileTree.SameFolders`: two trees have the same folders, so that a path that leads somewhere in
  one leads there in the other; writing a file keeps the folders.
* `FileTree.getLast?_of_walk`: steps lead to the name of the last one.
* `Path.ofText_of_notMem`: a name without slashes is a path of one step.
-/
import Mathlib.Logic.Basic
import Mathlib.Tactic.Lemma
import WidgetContracts.FileTree.Basic

namespace WidgetContracts

namespace FileTree

variable {t t' u : FileTree} {l m : Location} {p : Path} {content : String}

/-- The content of the file to which a path leads, if there is one. -/
def content? (t : FileTree) (p : Path) : Option String :=
  match t.locate p with
  | .ok l =>
    match t.at? l with
    | some (.file content) => some content
    | _ => none
  | .error _ => none

lemma content?_of_locate (hl : t.locate p = .ok l) (hat : t.at? l = some (.file content)) :
    t.content? p = some content := by
  rw [content?, hl]
  simp only [hat]

lemma at?_of_content? (hl : t.locate p = .ok l) (h : t.content? p = some content) :
    t.at? l = some (.file content) := by
  rw [content?, hl] at h
  dsimp only at h
  split at h
  · next hat => rw [hat, Option.some.inj h]
  · cases h

/-- The content depends on the place only to which the path leads. -/
lemma content?_congr {p q : Path} (h : t.locate p = t.locate q) : t.content? p = t.content? q := by
  rw [content?, content?, h]

/-- A write goes well where the path leads to a place without a folder, and changes that place. -/
lemma write_eq_ok_iff : t.write p content = .ok t' ↔
    ∃ l, t.locate p = .ok l ∧ t.at? l ≠ some .folder ∧ t' = t.put l (.file content) := by
  rw [write]
  cases hl : t.locate p with
  | error fault => simp [bind, Except.bind]
  | ok l =>
      simp only [bind, Except.bind, Except.ok.injEq, exists_eq_left']
      split
      · next hat => simp [hat]
      · next hat =>
          have hno : t.at? l ≠ some .folder := hat
          simp [hno, pure, Except.pure, eq_comm]

/-! ### Where paths lead -/

/-- What it takes for a path to lead somewhere. -/
lemma locate_eq_ok_iff : t.locate p = .ok l ↔
    (∀ s ∈ p.steps, '\x00' ∉ s.toList) ∧
      (Text.Utf8.encode p.text.toList).length ≤ maxPathBytes ∧
        t.walk (t.start p) p.steps = .ok l := by
  have hnull : (p.steps.any fun s => s.toList.contains '\x00') = true ↔
      ¬∀ s ∈ p.steps, '\x00' ∉ s.toList := by
    simp
  rw [locate]
  split
  · next h => simp [hnull.mp h]
  · next h =>
      rw [hnull, not_not] at h
      rw [and_iff_right h]
      split
      · next hlong => simp [Nat.not_le.mpr hlong]
      · next hshort => rw [and_iff_right (Nat.not_lt.mp hshort)]

/-! ### The same folders -/

/-- A tree has all the folders of another, and relative paths start from the same place. -/
structure KeepsFolders (t t' : FileTree) : Prop where
  here : t.here = t'.here
  folder : ∀ l, t.at? l = some .folder → t'.at? l = some .folder

namespace KeepsFolders

/-- Steps lead to the same place, if they lead anywhere: only folders are passed on the way. -/
lemma walk (h : t.KeepsFolders t') {steps : List String} (hw : t.walk l steps = .ok m) :
    t'.walk l steps = .ok m := by
  induction steps generalizing l with
  | nil => exact hw
  | cons step r ih =>
      simp only [FileTree.walk] at hw ⊢
      by_cases hup : step = ".."
      · rw [if_pos hup] at hw ⊢
        exact ih hw
      rw [if_neg hup] at hw ⊢
      by_cases hlong : isLongName step = true
      · rw [if_pos hlong] at hw
        cases hw
      rw [if_neg hlong] at hw ⊢
      by_cases hlast : r.isEmpty = true
      · rw [if_pos hlast] at hw ⊢
        exact hw
      rw [if_neg hlast] at hw ⊢
      -- the walk goes on in `t` only through a folder, which stands in `t'`, too
      cases hat : t.at? (l ++ [step]) with
      | none =>
          rw [hat] at hw
          cases hw
      | some item =>
          rw [hat] at hw
          cases item with
          | file content => cases hw
          | folder =>
              rw [h.folder _ hat]
              exact ih hw

lemma locate (h : t.KeepsFolders t') (hl : t.locate p = .ok l) : t'.locate p = .ok l := by
  obtain ⟨hnull, hlong, hw⟩ := locate_eq_ok_iff.mp hl
  refine locate_eq_ok_iff.mpr ⟨hnull, hlong, ?_⟩
  rw [start, ← h.here]
  exact h.walk hw

end KeepsFolders

/-- Two trees have the same folders, and relative paths start from the same place. -/
structure SameFolders (t t' : FileTree) : Prop where
  here : t.here = t'.here
  folder : ∀ l, t.at? l = some .folder ↔ t'.at? l = some .folder

namespace SameFolders

lemma refl (t : FileTree) : t.SameFolders t := ⟨rfl, fun _ => Iff.rfl⟩

lemma symm (h : t.SameFolders t') : t'.SameFolders t := ⟨h.here.symm, fun l => (h.folder l).symm⟩

lemma trans (h : t.SameFolders t') (h' : t'.SameFolders u) : t.SameFolders u :=
  ⟨h.here.trans h'.here, fun l => (h.folder l).trans (h'.folder l)⟩

lemma keeps (h : t.SameFolders t') : t.KeepsFolders t' := ⟨h.here, fun l => (h.folder l).mp⟩

lemma locate (h : t.SameFolders t') (hl : t.locate p = .ok l) : t'.locate p = .ok l :=
  h.keeps.locate hl

/-- Putting a file where no folder stands keeps the folders. -/
lemma put (hno : t.at? l ≠ some .folder) : t.SameFolders (t.put l (.file content)) := by
  refine ⟨rfl, fun m => ?_⟩
  by_cases hm : m = l
  · subst hm
    have hne : m ≠ [] := by
      rintro rfl
      exact hno rfl
    rw [at?_put t hne]
    exact iff_of_false hno (by simp)
  · rw [at?_put_of_ne t hm]

/-- Writing a file keeps the folders. -/
lemma of_write (h : t.write p content = .ok t') : t.SameFolders t' := by
  obtain ⟨l, -, hno, rfl⟩ := write_eq_ok_iff.mp h
  exact put hno

end SameFolders

/-! ### Where steps lead -/

/-- A path that leads somewhere is followed step by step. -/
lemma walk_of_locate (hl : t.locate p = .ok l) : t.walk (t.start p) p.steps = .ok l :=
  (locate_eq_ok_iff.mp hl).2.2

/-- Steps that do not end above lead to the name of the last one. -/
lemma getLast?_of_walk {steps : List String} {name : String}
    (hw : t.walk l (steps ++ [name]) = .ok m) (hup : name ≠ "..") : m.getLast? = some name := by
  induction steps generalizing l with
  | nil =>
      simp only [List.nil_append, walk, if_neg hup, List.isEmpty_nil, if_true] at hw
      split at hw
      · cases hw
      · obtain rfl := Except.ok.inj hw
        exact List.getLast?_concat
  | cons step r ih =>
      rw [List.cons_append] at hw
      simp only [walk] at hw
      split at hw
      · exact ih hw
      split at hw
      · cases hw
      split at hw
      · next hempty => simp at hempty
      split at hw
      · exact ih hw
      · cases hw
      · cases hw

end FileTree

/-- A name without slashes is a path of one step. -/
lemma Path.ofText_of_notMem {name : String} (hslash : '/' ∉ name.toList) (hne : name ≠ "")
    (hdot : name ≠ ".") : Path.ofText name = ⟨"", [name]⟩ := by
  have hroot : Path.rootOf name.toList = "" := by
    have hfront : name.toList.takeWhile (· == '/') = [] := by
      cases hcs : name.toList with
      | nil => rfl
      | cons c r =>
          have hc : c ≠ '/' := by
            rintro rfl
            exact hslash (hcs ▸ List.mem_cons_self)
          exact List.takeWhile_cons_of_neg (by simpa using hc)
    rw [Path.rootOf, hfront]
    rfl
  have hsteps : Path.stepsOf name.toList = [name] := by
    have hne' : name.toList ≠ [] := by simpa using hne
    have hdot' : name.toList ≠ ['.'] := by
      intro h
      exact hdot (String.toList_inj.mp h)
    rw [Path.stepsOf, List.splitOn_eq_singleton hslash]
    simp [hne', hdot']
  rw [Path.ofText, hroot, hsteps]

end WidgetContracts
