/-
Paths, as they are written and joined before any file system is asked.

* `Path`: the slashes at its front and its steps; a step is neither empty nor a single dot.
* `Path.ofText`, `Path.text`: between a path and its written form.
* `Path.join`: a path below another; an absolute path stays as it is.
* `Path.parent`: without the last step.
-/
namespace WidgetContracts

/-- A path. -/
structure Path where
  root : String
  steps : List String
  deriving DecidableEq, Repr

namespace Path

/-- The steps in a text: what stands between slashes, except for nothing and for a single dot. -/
def stepsOf (cs : List Char) : List String :=
  ((cs.splitOn '/').filter fun s => s ≠ [] ∧ s ≠ ['.']).map String.ofList

/-- The slashes that count at the front of a path: none, one, or exactly two. -/
def rootOf (cs : List Char) : String :=
  match (cs.takeWhile (· == '/')).length with
  | 0 => ""
  | 2 => "//"
  | _ => "/"

/-- The path that a text writes. -/
def ofText (s : String) : Path := ⟨rootOf s.toList, stepsOf s.toList⟩

/-- The written form of a path. -/
def text (p : Path) : String :=
  if p.root = "" ∧ p.steps = [] then "." else p.root ++ "/".intercalate p.steps

/-- A path below another. -/
def join (p q : Path) : Path := if q.root = "" then ⟨p.root, p.steps ++ q.steps⟩ else q

/-- A path without its last step. -/
def parent (p : Path) : Path := { p with steps := p.steps.dropLast }

end Path

end WidgetContracts
