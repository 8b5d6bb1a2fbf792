/-
From the nodes of a text to the document that it writes.

* `Graph.content`: what stands for a node where a scalar is wanted.
* `Builder`: the values of the nodes so far, and the lists and mappings that wait for their parts.
* `Builder.visit`, `Builder.fill`: a list or mapping has a place before it has its parts, so it can
  be a part of itself. What is nearer to the root is filled earlier, and the first fault counts.
* `document`: the document that a text writes; an empty text writes the empty value.
-/
import WidgetContracts.Markup.Merge
import WidgetContracts.Markup.Scalar
import WidgetContracts.Markup.Token.Scan

namespace WidgetContracts.Markup

namespace Graph

/-- What stands for a node where a scalar is wanted: the content of a scalar, or of the value that
stands for a whole mapping; at most `fuel` mappings are looked into. -/
def content (g : Graph) : (fuel : Nat) → Nat → Except Fault Content
  | 0, _ => .error .tooDeep
  | fuel + 1, i =>
    match g.node i with
    | .scalar _ c => .ok c
    | .list _ _ => .error .malformed
    | .map _ entries =>
      match entries.find? fun e => (g.node e.1).kind == .value with
      | some (_, v) => g.content fuel v
      | none => .error .malformed

/-- The scalar of a node that is none of the collections. -/
def scalar (g : Graph) (i : Nat) : Except Fault Scalar :=
  match g.node i with
  | .scalar k c => k.scalarOf c
  | .list _ _ => .error .malformed
  | .map k _ => do
    if k = .merge ∨ k = .value ∨ k = .unknown then throw .malformed
    let c ← g.content (g.size + 1) i
    if k = .timestamp then throw .mappingForDay else k.scalarOf c

end Graph

/-- The empty collection of a kind, if it is a kind of collections. -/
def Kind.collection? : Kind → Option Value
  | seq | omap | pairs => some (.list [])
  | map => some (.map [])
  | set => some (.set [])
  | _ => none

/-- The values of the nodes so far, and the collections that wait for their parts, the last one
first. At most `requests` entries ask to merge. -/
structure Builder where
  graph : Graph
  requests : Nat
  values : Array (Option Value)
  waiting : List Nat

namespace Builder

/-- The start of a building. -/
def start (g : Graph) : Builder := ⟨g, g.countMerges, Array.replicate g.size none, []⟩

/-- The builder with a value for a node. -/
def set (i : Nat) (v : Value) (b : Builder) : Builder :=
  { b with values := b.values.setIfInBounds i (some v) }

/-- The value of a node as a part of others. A collection is a reference; it waits for its parts
from the first visit on. -/
def visit (i : Nat) (b : Builder) : Except Fault (Value × Builder) :=
  match b.values[i]? with
  | some (some (.scalar s)) => .ok (.scalar s, b)
  | some (some _) => .ok (.shared i, b)
  | _ =>
    match (b.graph.node i).kind.collection? with
    | some v => .ok (.shared i, { b.set i v with waiting := i :: b.waiting })
    | none => do
      let s ← b.graph.scalar i
      return (.scalar s, b.set i (.scalar s))

/-- The value of a node as a key. Lists and mappings are no keys. -/
def visitKey (i : Nat) (b : Builder) : Except Fault (Scalar × Builder) := do
  match ← b.visit i with
  | (.scalar s, b) => return (s, b)
  | _ => throw .malformed

/-- The values of nodes as parts of others. -/
def visitAll : List Nat → Builder → Except Fault (List Value × Builder)
  | [], b => .ok ([], b)
  | i :: r, b => do
    let (v, b) ← b.visit i
    let (vs, b) ← visitAll r b
    return (v :: vs, b)

/-- The entries of a mapping. -/
def visitEntries : List (Nat × Nat) → Builder → Except Fault (List (Scalar × Value) × Builder)
  | [], b => .ok ([], b)
  | (k, v) :: r, b => do
    let (key, b) ← b.visitKey k
    let (value, b) ← b.visit v
    let (es, b) ← visitEntries r b
    return ((key, value) :: es, b)

/-- Pairs, each of which is a mapping of one entry. -/
def visitPairs : List Nat → Builder → Except Fault (List Value × Builder)
  | [], b => .ok ([], b)
  | i :: r, b =>
    match b.graph.node i with
    | .map _ [(k, v)] => do
      let (first, b) ← b.visit k
      let (second, b) ← b.visit v
      let (ps, b) ← visitPairs r b
      return (.pair first second :: ps, b)
    | _ => .error .malformed

/-- The entries of a mapping, merged with those that it asks for. -/
def mergedEntries (i : Nat) (b : Builder) : Except Fault (List (Scalar × Value) × Builder) := do
  match b.graph.node i with
  | .map _ _ =>
    let graph ← b.graph.flatten b.requests i
    let (es, b) ← visitEntries (graph.entries i) { b with graph }
    return (es, b)
  | _ => throw .malformed

/-- Gives a waiting collection its parts. -/
def fill (i : Nat) (b : Builder) : Except Fault Builder := do
  match (b.graph.node i).kind, b.graph.node i with
  | .seq, .list _ items =>
    let (vs, b) ← visitAll items b
    return b.set i (.list vs)
  | .omap, .list _ items | .pairs, .list _ items =>
    let (ps, b) ← visitPairs items b
    return b.set i (.list ps)
  | .map, .map _ _ =>
    let (es, b) ← b.mergedEntries i
    return b.set i (.map (es.foldl (fun done (k, v) => put k v done) []))
  | .set, .map _ _ =>
    let (es, b) ← b.mergedEntries i
    return b.set i (.set (es.foldl (fun done (k, _) => putMember k done) []))
  | _, _ => throw .malformed

/-- Fills the collections `now`, then those that wait by then, and so on, at most `fuel` steps. -/
def run : (fuel : Nat) → (now : List Nat) → Builder → Except Fault Builder
  | 0, _, b => .ok b
  | fuel + 1, i :: r, b => do run fuel r (← b.fill i)
  | fuel + 1, [], b =>
    if b.waiting.isEmpty then .ok b else run fuel b.waiting.reverse { b with waiting := [] }

end Builder

/-- The document of the nodes of a text. -/
def Graph.document (g : Graph) : Except Fault Document := do
  let (root, b) ← (Builder.start g).visit 0
  let b ← b.run (2 * g.size + 2) []
  return ⟨root, b.values.map (·.getD .null)⟩

/-- The document that a text writes. -/
def document (text : Source) : Except Fault Document := do
  match ← Graph.ofTokens? (tokens text) with
  | none => return ⟨.null, #[]⟩
  | some g => g.document

end WidgetContracts.Markup
