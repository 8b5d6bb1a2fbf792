/-
Writing to a tree more than once.

* `FileTree.put_put`, `FileTree.put_comm`, `FileTree.put_eq_self`: what is put last at a place
  stays, the order of two places does not matter, and what is there already may be put again.
* `FileTree.GainsFolders`, `FileTree.gainsFolders_of_makeFolders`: making folders puts folders where
  nothing was, and does nothing else.
* `FileTree.makeFolders_of_hasFolder`: a folder that is there is not made again.
-/
import WidgetContracts.Proofs.FileTree.Folders

namespace WidgetContracts

/-! ### Items at places -/

section

variable {l m : Location} {items : List (Location × Item)}

/-- What is put last at a place stays, at the position that the place was given first. -/
lemma putItem_putItem (item other : Item) :
    putItem l item (putItem l other items) = putItem l item items := by
  induction items with
  | nil => simp [putItem]
  | cons e r ih =>
      obtain ⟨k, i⟩ := e
      by_cases h : k = l
      · simp [putItem, h]
      · simp [putItem, h, ih]

/-- What stands at a place may be put there again. -/
lemma putItem_eq_self {item : Item} (h : items.lookup l = some item) :
    putItem l item items = items := by
  induction items with
  | nil => simp at h
  | cons e r ih =>
      obtain ⟨k, i⟩ := e
      by_cases hk : k = l
      · subst hk
        simp only [List.lookup_cons, beq_self_eq_true, Option.some.injEq] at h
        simp [putItem, h]
      · have hb : (l == k) = false := by simpa using fun he => hk he.symm
        rw [List.lookup_cons, hb] at h
        simp [putItem, hk, ih h]

/-- A place that is taken keeps its position, so that putting something elsewhere may come first. -/
lemma putItem_comm (item other : Item) (hne : m ≠ l) (h : items.lookup l ≠ none) :
    putItem m other (putItem l item items) = putItem l item (putItem m other items) := by
  induction items with
  | nil => simp at h
  | cons e r ih =>
      obtain ⟨k, i⟩ := e
      by_cases hk : k = l
      · subst hk
        simp [putItem, Ne.symm hne]
      · have hb : (l == k) = false := by simpa using fun he => hk he.symm
        rw [List.lookup_cons, hb] at h
        by_cases hm : k = m
        · subst hm
          simp [putItem, hne]
        · simp [putItem, hk, hm, ih h]

end

namespace FileTree

variable {t u v : FileTree} {l m : Location} {p : Path} {content : String}

/-- What is put last at a place stays. -/
lemma put_put (t : FileTree) (l : Location) (item other : Item) :
    (t.put l other).put l item = t.put l item := by
  simp only [put, putItem_putItem]

lemma lookup_of_at? (h : t.at? l = some (.file content)) :
    t.items.lookup l = some (.file content) := by
  rw [at?] at h
  split at h
  · cases h
  · exact h

/-- Putting the file that is there already changes nothing. -/
lemma put_eq_self (h : t.at? l = some (.file content)) : t.put l (.file content) = t := by
  rw [put, putItem_eq_self (lookup_of_at? h)]

/-- Where a file stands, something may be put elsewhere before or after. -/
lemma put_comm (item other : Item) (hne : m ≠ l) (h : t.at? l = some (.file content)) :
    (t.put l item).put m other = (t.put m other).put l item := by
  have htaken : t.items.lookup l ≠ none := by
    rw [lookup_of_at? h]
    exact Option.some_ne_none _
  simp only [put, putItem_comm item other hne htaken]

/-! ### Folders that are made -/

/-- A tree has some more folders than another, where nothing was, and is the same elsewhere. -/
structure GainsFolders (t u : FileTree) : Prop where
  here : u.here = t.here
  place : ∀ l, u.at? l = t.at? l ∨ t.at? l = none ∧ u.at? l = some .folder

lemma GainsFolders.refl (t : FileTree) : t.GainsFolders t := ⟨rfl, fun _ => .inl rfl⟩

lemma GainsFolders.trans (h : t.GainsFolders u) (h' : u.GainsFolders v) : t.GainsFolders v := by
  refine ⟨h'.here.trans h.here, fun l => ?_⟩
  rcases h.place l with hl | ⟨hnone, hl⟩
  · rw [← hl]
    exact h'.place l
  · rcases h'.place l with hl' | ⟨hnone', -⟩
    · exact .inr ⟨hnone, hl'.trans hl⟩
    · rw [hl] at hnone'
      cases hnone'

/-- A folder may be put where nothing is. -/
lemma GainsFolders.put (h : t.at? l = none) : t.GainsFolders (t.put l .folder) := by
  refine ⟨rfl, fun m => ?_⟩
  by_cases hm : m = l
  · subst hm
    exact .inr ⟨h, at?_put_folder t m⟩
  · exact .inl (at?_put_of_ne t hm _)

lemma gainsFolders_of_ensureFolder (t : FileTree) (p : Path) :
    t.GainsFolders (t.ensureFolder p).1 := by
  rw [ensureFolder]
  cases hmake : t.makeFolder p with
  | error fault => exact .refl t
  | ok t' =>
      obtain ⟨l, -, hnone, rfl⟩ := makeFolder_eq_ok_iff.mp hmake
      exact .put hnone

/-- Folders are made from the top: the one at the end of a path is tried again once those above it
are there. -/
lemma gainsFolders_of_makeFoldersUp (p : Path) (fuel : Nat) (t : FileTree) :
    t.GainsFolders (makeFoldersUp p fuel t).1 := by
  induction fuel generalizing p t with
  | zero => exact gainsFolders_of_ensureFolder t p
  | succ fuel ih =>
      rw [makeFoldersUp]
      split
      · have hup := ih p.parent t
        split
        · next t' hmade =>
          rw [hmade] at hup
          exact hup.trans (gainsFolders_of_ensureFolder t' p)
        · exact hup
      · exact gainsFolders_of_ensureFolder t p

/-- Making a folder with all those above it puts folders where nothing was, also if it fails. -/
theorem gainsFolders_of_makeFolders (t : FileTree) (p : Path) :
    t.GainsFolders (t.makeFolders p).1 :=
  gainsFolders_of_makeFoldersUp p _ t

lemma ensureFolder_of_hasFolder (h : t.HasFolder p) : t.ensureFolder p = (t, none) := by
  have hthere : t.isFolder p = true := isFolder_iff.mpr h
  obtain ⟨l, hl, hat⟩ := h
  have hmake : t.makeFolder p = .error .exists := by
    rw [makeFolder, hl]
    simp [bind, Except.bind, hat, throw, throwThe, MonadExceptOf.throw]
  simp [ensureFolder, hmake, hthere]

/-- A folder that is there is not made again. -/
theorem makeFolders_of_hasFolder (h : t.HasFolder p) : t.makeFolders p = (t, none) := by
  rw [makeFolders]
  cases p.steps.length with
  | zero => exact ensureFolder_of_hasFolder h
  | succ fuel =>
      rw [makeFoldersUp, ensureFolder_of_hasFolder h]

end FileTree

end WidgetContracts
