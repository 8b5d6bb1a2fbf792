/-
File systems as values.

* `Location`: the names from the root to a file or folder.
* `Item`, `FileTree`: what stands at each location.
* `PathFault`: why a path cannot be followed or used.
* `FileTree.walk`: follows steps from a location; every step but the last must lead to a folder.
* `FileTree.makeFolder`, `FileTree.makeFolders`: a folder, and one with all those above it.
* `FileTree.write`: the content of a file, which replaces what was there.
* `at?_put`, `at?_put_of_ne`: writing changes one location only.
-/
import WidgetContracts.FileTree.Path
import WidgetContracts.Text.Utf8

namespace WidgetContracts

/-- The names from the root to a file or folder. -/
abbrev Location := List String

/-- What stands at a location. -/
inductive Item where
  | folder
  | file (content : String)
  deriving DecidableEq, Repr

/-- What stands at each location, and the location from which relative paths are followed. The root
is a folder in any case. -/
structure FileTree where
  here : Location
  items : List (Location × Item)
  deriving DecidableEq, Repr

/-- Why a path cannot be followed or used. -/
inductive PathFault where
  | notFound
  | exists
  | notFolder
  | isFolder
  | tooLong
  | nullCharacter
  deriving DecidableEq, Repr

/-- The bytes that a name may have. -/
def maxNameBytes : Nat := 255

/-- The bytes that a written path may have. -/
def maxPathBytes : Nat := 4095

/-- Whether a name is too long for a file or folder. -/
def isLongName (name : String) : Bool := maxNameBytes < (Text.Utf8.encode name.toList).length

/-- Writes what stands at a location. -/
def putItem (l : Location) (item : Item) : List (Location × Item) → List (Location × Item)
  | [] => [(l, item)]
  | (k, i) :: r => if k = l then (l, item) :: r else (k, i) :: putItem l item r

namespace FileTree

/-- A tree with nothing but the folders down to a location. -/
def empty (here : Location) : FileTree :=
  ⟨here, (List.range here.length).map fun n => (here.take (n + 1), .folder)⟩

/-- What stands at a location. -/
def at? (t : FileTree) (l : Location) : Option Item :=
  if l = [] then some .folder else t.items.lookup l

/-- The tree with something at a location. -/
def put (t : FileTree) (l : Location) (item : Item) : FileTree :=
  { t with items := putItem l item t.items }

/-- Follows steps from a folder. Two dots lead to the folder above. The location reached need not be
there, but all before it must. -/
def walk (t : FileTree) (l : Location) : List String → Except PathFault Location
  | [] => .ok l
  | step :: r =>
    if step = ".." then t.walk l.dropLast r
    else if isLongName step then .error .tooLong
    else
      let l' := l ++ [step]
      if r.isEmpty then .ok l'
      else
        match t.at? l' with
        | some .folder => t.walk l' r
        | some (.file _) => .error .notFolder
        | none => .error .notFound

/-- The location from which a path is followed. -/
def start (t : FileTree) (p : Path) : Location := if p.root = "" then t.here else []

/-- The location to which a path leads. A null character, and then too long a path, is refused
before anything is looked up. -/
def locate (t : FileTree) (p : Path) : Except PathFault Location :=
  if p.steps.any fun s => s.toList.contains '\x00' then .error .nullCharacter
  else if maxPathBytes < (Text.Utf8.encode p.text.toList).length then .error .tooLong
  else t.walk (t.start p) p.steps

/-- Whether a path leads to a folder. -/
def isFolder (t : FileTree) (p : Path) : Bool :=
  match t.locate p with
  | .ok l => t.at? l == some .folder
  | .error _ => false

/-- Makes a folder. -/
def makeFolder (t : FileTree) (p : Path) : Except PathFault FileTree := do
  let l ← t.locate p
  match t.at? l with
  | some _ => throw .exists
  | none => return t.put l .folder

/-- Makes a folder; it is well if it is there already. -/
def ensureFolder (t : FileTree) (p : Path) : FileTree × Option PathFault :=
  match t.makeFolder p with
  | .ok t' => (t', none)
  | .error fault => (t, if fault ≠ .nullCharacter ∧ t.isFolder p then none else some fault)

/-- Makes a folder after those above it, `fuel` steps up at most. What was made before a fault
stays. -/
def makeFoldersUp (p : Path) : (fuel : Nat) → FileTree → FileTree × Option PathFault
  | 0, t => t.ensureFolder p
  | fuel + 1, t =>
    match t.ensureFolder p with
    | (_, some .notFound) =>
      match makeFoldersUp p.parent fuel t with
      | (t', none) => t'.ensureFolder p
      | r => r
    | r => r

/-- Makes a folder with all those above it. -/
def makeFolders (t : FileTree) (p : Path) : FileTree × Option PathFault :=
  makeFoldersUp p p.steps.length t

/-- Writes the content of a file. -/
def write (t : FileTree) (p : Path) (content : String) : Except PathFault FileTree := do
  let l ← t.locate p
  match t.at? l with
  | some .folder => throw .isFolder
  | _ => return t.put l (.file content)

/-- The files below a location, with their names from there on. -/
def filesBelow (t : FileTree) (l : Location) : List (List String × String) :=
  t.items.filterMap fun (k, item) =>
    match item with
    | .file content => if l.isPrefixOf k then some (k.drop l.length, content) else none
    | .folder => none

end FileTree

theorem lookup_putItem (l : Location) (item : Item) (items : List (Location × Item)) :
    (putItem l item items).lookup l = some item := by
  induction items with
  | nil => simp [putItem]
  | cons e r ih =>
    obtain ⟨k, i⟩ := e
    by_cases h : k = l
    · simp [putItem, h]
    · have hb : (l == k) = false := by simpa using fun he => h he.symm
      simp [putItem, h, List.lookup_cons, hb, ih]

theorem lookup_putItem_of_ne {l m : Location} (h : m ≠ l) (item : Item)
    (items : List (Location × Item)) : (putItem l item items).lookup m = items.lookup m := by
  induction items with
  | nil =>
    have hb : (m == l) = false := by simpa using h
    simp [putItem, List.lookup_cons, hb]
  | cons e r ih =>
    obtain ⟨k, i⟩ := e
    by_cases hk : k = l
    · have hb : (m == l) = false := by simpa using h
      simp [putItem, hk, List.lookup_cons, hb]
    · simp only [putItem, hk, if_false, List.lookup_cons]
      rw [ih]

namespace FileTree

/-- What was written stands at its location. -/
theorem at?_put (t : FileTree) {l : Location} (h : l ≠ []) (item : Item) :
    (t.put l item).at? l = some item := by
  simp [at?, put, h, lookup_putItem]

/-- Writing leaves all other locations as they are. -/
theorem at?_put_of_ne (t : FileTree) {l m : Location} (h : m ≠ l) (item : Item) :
    (t.put l item).at? m = t.at? m := by
  simp [at?, put, lookup_putItem_of_ne h]

end FileTree

end WidgetContracts
