/-
Mappings with other mappings merged into them.

* `Graph.isMerge`: the keys under which the mappings stand that are to be merged.
* `Graph.flatten`: a mapping where this has been done. Merged entries stand in front of its own
  entries, so its own entries count where keys are equal; of several mappings in a list the first
  one counts.
* A request is taken out before it is followed, so a mapping may be merged into itself: it gives the
  entries that it has by then.
-/
import WidgetContracts.Markup.Node

namespace WidgetContracts.Markup

/-- The kind of a node. -/
def Node.kind : Node → Kind
  | scalar k _ | list k _ | map k _ => k

/-- A node as one of another kind. -/
def Node.withKind (k : Kind) : Node → Node
  | scalar _ c => scalar k c
  | list _ items => list k items
  | map _ entries => map k entries

namespace Graph

/-- The node with a number. -/
def node (g : Graph) (i : Nat) : Node := g[i]?.getD .empty

/-- The entries of a node, if it is a mapping. -/
def entries (g : Graph) (i : Nat) : List (Nat × Nat) :=
  match g.node i with
  | .map _ es => es
  | _ => []

/-- A mapping with other entries. -/
def withEntries (g : Graph) (i : Nat) (es : List (Nat × Nat)) : Graph :=
  g.setIfInBounds i (.map (g.node i).kind es)

/-- Whether a key asks to merge what stands under it. -/
def isMerge (g : Graph) (key : Nat) : Bool := (g.node key).kind == .merge

/-- The number of entries that ask to merge. -/
def countMerges (g : Graph) : Nat :=
  ((List.range g.size).flatMap g.entries).countP fun e => g.isMerge e.1

/-- The nodes after a key has been used: one that could stand for a whole mapping is text now. -/
def asKey (g : Graph) (key : Nat) : Graph :=
  if (g.node key).kind = .value then g.setIfInBounds key ((g.node key).withKind .str) else g

/-- What the first entry that asks to merge asks for, and the other entries. -/
def takeMerge? (g : Graph) : List (Nat × Nat) → Option (Nat × List (Nat × Nat))
  | [] => none
  | (k, v) :: r =>
    if g.isMerge k then some (v, r) else (g.takeMerge? r).map fun (w, es) => (w, (k, v) :: es)

/-- The entries of mappings, those of the last one first; `flat` merges what they ask for. -/
def offeredBy (flat : Nat → Graph → Except Fault Graph) :
    List Nat → Graph → Except Fault (List (Nat × Nat) × Graph)
  | [], g => .ok ([], g)
  | i :: r, g =>
    match g.node i with
    | .map _ _ => do
      let g ← flat i g
      let es := g.entries i
      let (more, g) ← offeredBy flat r g
      return (more ++ es, g)
    | _ => .error .malformed

/-- The entries that a node offers to be merged: those of a mapping, or of all mappings in a list.
-/
def offered (flat : Nat → Graph → Except Fault Graph) (i : Nat) (g : Graph) :
    Except Fault (List (Nat × Nat) × Graph) :=
  match g.node i with
  | .map _ _ => offeredBy flat [i] g
  | .list _ items => offeredBy flat items g
  | .scalar _ _ => .error .malformed

/-- Merges what a mapping asks for, after the entries `merged` from earlier requests; at most `fuel`
requests are followed. -/
def flattenFrom : (fuel : Nat) → (merged : List (Nat × Nat)) → Nat → Graph → Except Fault Graph
  | 0, _, _, g => .ok g
  | fuel + 1, merged, i, g =>
    let own := g.entries i
    match g.takeMerge? own with
    | none => .ok ((own.foldl (fun g e => g.asKey e.1) g).withEntries i (merged ++ own))
    | some (v, rest) => do
      let (more, g) ← offered (flattenFrom fuel []) v (g.withEntries i rest)
      flattenFrom fuel (merged ++ more) i g

/-- Merges what a mapping asks for, where at most `requests` entries of the nodes ask to merge. -/
def flatten (requests : Nat) (i : Nat) (g : Graph) : Except Fault Graph :=
  flattenFrom (requests + 1) [] i g

end Graph

end WidgetContracts.Markup
