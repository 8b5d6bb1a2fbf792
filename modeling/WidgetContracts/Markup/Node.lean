/-
From the tokens of a text in the YAML notation to its nodes.

* `Node`: a scalar, list or mapping with its kind. The parts of lists and mappings are numbers of
  nodes, since an alias makes a node a part of several others, and even of itself.
* `Graph`: the nodes of a text by their numbers; the first one is the whole text.
* `Reader`: the tokens that are left, the nodes so far, and those of them that have names.
* `Reader.node`: reads a node; blocks and brackets have their own readers.
* `Graph.ofTokens?`: the nodes of a whole text, of which there are none when the text is empty.
-/
import WidgetContracts.Markup.Kind
import WidgetContracts.Markup.Token.Basic

namespace WidgetContracts.Markup

/-- A node of a text. -/
inductive Node where
  | scalar (kind : Kind) (content : Content)
  | list (kind : Kind) (items : List Nat)
  | map (kind : Kind) (entries : List (Nat × Nat))
  deriving DecidableEq, Repr

/-- The nodes of a text. -/
abbrev Graph := Array Node

namespace Node

/-- The node of nothing. -/
def empty : Node := .scalar .null (.text [])

end Node

/-- What a reader of nodes goes on with: the tokens that are left, the nodes so far, and the numbers
of those that have names. -/
structure Reader where
  tokens : List Token
  nodes : Graph
  named : List (String × Nat)

/-- The handles of tags that every text has. -/
def standardHandles : List (String × String) := [("!", "!"), ("!!", Kind.addressFront)]

/-- What is said about a node in front of it: its name, and the address of its tag. -/
structure Properties where
  name : Option String
  address : Option String

namespace Reader

/-- The fault that the next token is not one that may stand here. -/
def unexpected (r : Reader) : Fault :=
  match r.tokens with
  | .broken fault :: _ => fault
  | _ => .malformed

/-- Passes over one token. -/
def next (r : Reader) : Reader := { r with tokens := r.tokens.drop 1 }

/-- Whether the next token is one of some kinds. The end of the text is none of them. -/
def sees (r : Reader) (p : Token → Bool) : Bool := r.tokens.head?.any p

/-- Adds a node, and gives its number. -/
def add (node : Node) (r : Reader) : Nat × Reader :=
  (r.nodes.size, { r with nodes := r.nodes.push node })

/-- Replaces a node. -/
def fill (i : Nat) (node : Node) (r : Reader) : Reader :=
  { r with nodes := r.nodes.setIfInBounds i node }

/-- Gives a node its name. -/
def name (properties : Properties) (i : Nat) (r : Reader) : Reader :=
  match properties.name with
  | some n => { r with named := (n, i) :: r.named }
  | none => r

/-- The address of a tag, by the handles of the text. -/
def addressOf (handles : List (String × String)) (handle : Option String) (suffix : String) :
    Except Fault String :=
  match handle with
  | none => .ok suffix
  | some h =>
    match handles.lookup h with
    | some front => .ok (front ++ suffix)
    | none => .error .malformed

/-- The properties in front of a node: a name and a tag, in either order. A name is given once. -/
def properties (handles : List (String × String)) (r : Reader) :
    Except Fault (Properties × Reader) := do
  let (n, tag, r) ← match r.tokens with
    | .anchor n :: .tag h s :: ts => pure (some n, some (h, s), { r with tokens := ts })
    | .anchor n :: ts => pure (some n, none, { r with tokens := ts })
    | .tag h s :: .anchor n :: ts => pure (some n, some (h, s), { r with tokens := ts })
    | .tag _ _ :: .broken fault :: _ => throw fault
    | .tag h s :: ts => pure (none, some (h, s), { r with tokens := ts })
    | _ => pure (none, none, r)
  let address ← match tag with
    | some (h, s) => pure (some (← addressOf handles h s))
    | none => pure none
  return (⟨n, address⟩, r)

/-- Refuses a name that is given already. -/
def checkName (properties : Properties) (r : Reader) : Except Fault Unit :=
  if properties.name.any fun n => (r.named.lookup n).isSome then .error .malformed else .ok ()

/-- The kind of a collection: the one that its tag names, or the common one. -/
def collectionKind (properties : Properties) (common : Kind) : Kind :=
  match properties.address with
  | some a => if a = "!" then common else .ofAddress a
  | none => common

/-- The kind of a scalar: the one that its tag names, or the one by its looks if it is plain. -/
def scalarKind (properties : Properties) (content : Content) (plain : Bool) : Kind :=
  let byLooks : Kind := match content with
    | .text cs => .ofPlain cs
    | .loose _ => .str
  match properties.address with
  | some a => if a = "!" then byLooks else .ofAddress a
  | none => if plain then byLooks else .str

/-- Whether an entry of a block ends here, before any node. -/
def endsEntry : Token → Bool
  | .key | .value | .blockEnd => true
  | _ => false

/-- Whether a member of a list without indentation ends here, before any node. -/
def endsMember : Token → Bool
  | .entry | .blockEnd => true
  | _ => false

/-- Whether a member of a list in brackets ends here. -/
def endsFlowMember : Token → Bool
  | .flowEntry | .flowSequenceEnd => true
  | _ => false

/-- Whether an entry of a mapping in brackets ends here. -/
def endsFlowEntry : Token → Bool
  | .flowEntry | .flowMappingEnd => true
  | _ => false

/-- Puts the first of two parts in front of the others. -/
def consPart {α : Type} (a : α) : List α × Reader → List α × Reader
  | (as, r) => (a :: as, r)

/-- Adds a scalar with its name. -/
def scalar (ps : Properties) (kind : Kind) (content : Content) (r : Reader) :
    Except Fault (Nat × Reader) := do
  r.checkName ps
  let (i, r) := r.add (.scalar kind content)
  return (i, r.name ps i)

/-- Adds a list with its name; its members are read after it has got its number. -/
def list (ps : Properties) (read : Reader → Except Fault (List Nat × Reader)) (r : Reader) :
    Except Fault (Nat × Reader) := do
  r.checkName ps
  let kind := collectionKind ps .seq
  let (i, r) := r.add (.list kind [])
  let (items, r) ← read (r.name ps i)
  return (i, r.fill i (.list kind items))

/-- Adds a mapping with its name; its entries are read after it has got its number. -/
def map (ps : Properties) (read : Reader → Except Fault (List (Nat × Nat) × Reader))
    (r : Reader) : Except Fault (Nat × Reader) := do
  r.checkName ps
  let kind := collectionKind ps .map
  let (i, r) := r.add (.map kind [])
  let (entries, r) ← read (r.name ps i)
  return (i, r.fill i (.map kind entries))

/-- A node of which only the properties are there. -/
def bare (ps : Properties) (r : Reader) : Except Fault (Nat × Reader) :=
  if ps.name.isNone && ps.address.isNone then .error r.unexpected
  else r.scalar ps (scalarKind ps (.text []) true) (.text [])

/-- How deep lists and mappings may stand inside each other. -/
def maxDepth : Nat := 485

mutual

/-- Reads a node, inside which others may stand `room` deep. Blocks may stand where `block` says so,
and where `indentless` says so a list without indentation of its own. `fuel` bounds the depth of the
reading. -/
def node (handles : List (String × String)) :
    (fuel : Nat) → (room : Nat) → (block indentless : Bool) → Reader →
      Except Fault (Nat × Reader)
  | 0, _, _, _, r => .error r.unexpected
  | fuel + 1, room, block, indentless, r => do
    if room = 0 then throw .tooDeep
    if let .alias n :: _ := r.tokens then
      match r.named.lookup n with
      | some i => return (i, r.next)
      | none => throw .malformed
    let (ps, r) ← r.properties handles
    match r.tokens with
    | .entry :: _ =>
      if indentless then r.list ps (members handles fuel (room - 1)) else r.bare ps
    | .scalar content plain :: _ => r.next.scalar ps (scalarKind ps content plain) content
    | .flowSequenceStart :: _ => r.next.list ps (flowMembers handles fuel (room - 1) true)
    | .flowMappingStart :: _ => r.next.map ps (flowEntries handles fuel (room - 1) true)
    | .sequenceStart :: _ =>
      if block then r.next.list ps (blockMembers handles fuel (room - 1)) else r.bare ps
    | .mappingStart :: _ =>
      if block then r.next.map ps (entries handles fuel (room - 1)) else r.bare ps
    | _ => r.bare ps

/-- A node, or nothing where an entry ends. -/
def nodeUnless (handles : List (String × String)) :
    (fuel : Nat) → (room : Nat) → (ends : Token → Bool) → (block indentless : Bool) → Reader →
      Except Fault (Nat × Reader)
  | 0, _, _, _, _, r => .error r.unexpected
  | fuel + 1, room, ends, block, indentless, r =>
    if r.sees ends then .ok (r.add .empty) else node handles fuel room block indentless r

/-- The members of a list in a block of its own. -/
def blockMembers (handles : List (String × String)) :
    (fuel : Nat) → (room : Nat) → Reader → Except Fault (List Nat × Reader)
  | 0, _, r => .error r.unexpected
  | fuel + 1, room, r =>
    match r.tokens with
    | .entry :: _ => do
      let (item, r) ← nodeUnless handles fuel room endsMember true false r.next
      return consPart item (← blockMembers handles fuel room r)
    | .blockEnd :: _ => .ok ([], r.next)
    | _ => .error r.unexpected

/-- The members of a list without indentation of its own. -/
def members (handles : List (String × String)) :
    (fuel : Nat) → (room : Nat) → Reader → Except Fault (List Nat × Reader)
  | 0, _, r => .error r.unexpected
  | fuel + 1, room, r =>
    match r.tokens with
    | .entry :: _ => do
      let ends (t : Token) := endsMember t || endsEntry t
      let (item, r) ← nodeUnless handles fuel room ends true false r.next
      return consPart item (← members handles fuel room r)
    | _ => .ok ([], r)

/-- The entries of a mapping in a block. -/
def entries (handles : List (String × String)) :
    (fuel : Nat) → (room : Nat) → Reader → Except Fault (List (Nat × Nat) × Reader)
  | 0, _, r => .error r.unexpected
  | fuel + 1, room, r =>
    match r.tokens with
    | .key :: _ => do
      let (key, r) ← nodeUnless handles fuel room endsEntry true true r.next
      let (value, r) ← blockValue handles fuel room r
      return consPart (key, value) (← entries handles fuel room r)
    | .blockEnd :: _ => .ok ([], r.next)
    | _ => .error r.unexpected

/-- The value of an entry in a block; an entry without the mark of a value has none. -/
def blockValue (handles : List (String × String)) :
    (fuel : Nat) → (room : Nat) → Reader → Except Fault (Nat × Reader)
  | 0, _, r => .error r.unexpected
  | fuel + 1, room, r =>
    match r.tokens with
    | .value :: _ => nodeUnless handles fuel room endsEntry true true r.next
    | _ => .ok (r.add .empty)

/-- The members of a list in brackets; all but the first follow a comma, and a member may be a
mapping of one entry. -/
def flowMembers (handles : List (String × String)) :
    (fuel : Nat) → (room : Nat) → (first : Bool) → Reader → Except Fault (List Nat × Reader)
  | 0, _, _, r => .error r.unexpected
  | fuel + 1, room, first, r =>
    match r.tokens with
    | .flowSequenceEnd :: _ => .ok ([], r.next)
    | t :: _ => do
      if !first && t != .flowEntry then throw r.unexpected
      let r := if first then r else r.next
      match r.tokens with
      | .flowSequenceEnd :: _ => return ([], r.next)
      | .key :: _ =>
        let ends (t : Token) := t == .value || endsFlowMember t
        let (key, r) ← nodeUnless handles fuel (room - 1) ends false false r.next
        let (value, r) ← flowValue handles fuel (room - 1) endsFlowMember r
        let (item, r) := r.add (.map .map [(key, value)])
        return consPart item (← flowMembers handles fuel room false r)
      | _ =>
        let (item, r) ← node handles fuel room false false r
        return consPart item (← flowMembers handles fuel room false r)
    | [] => .error r.unexpected

/-- The entries of a mapping in brackets; all but the first follow a comma, and an entry may be a
key alone. -/
def flowEntries (handles : List (String × String)) :
    (fuel : Nat) → (room : Nat) → (first : Bool) → Reader →
      Except Fault (List (Nat × Nat) × Reader)
  | 0, _, _, r => .error r.unexpected
  | fuel + 1, room, first, r =>
    match r.tokens with
    | .flowMappingEnd :: _ => .ok ([], r.next)
    | t :: _ => do
      if !first && t != .flowEntry then throw r.unexpected
      let r := if first then r else r.next
      match r.tokens with
      | .flowMappingEnd :: _ => return ([], r.next)
      | .key :: _ =>
        let ends (t : Token) := t == .value || endsFlowEntry t
        let (key, r) ← nodeUnless handles fuel room ends false false r.next
        let (value, r) ← flowValue handles fuel room endsFlowEntry r
        return consPart (key, value) (← flowEntries handles fuel room false r)
      | _ =>
        let (key, r) ← node handles fuel room false false r
        let (value, r) := r.add .empty
        return consPart (key, value) (← flowEntries handles fuel room false r)
    | [] => .error r.unexpected

/-- The value of an entry in brackets; an entry without the mark of a value has none. -/
def flowValue (handles : List (String × String)) :
    (fuel : Nat) → (room : Nat) → (ends : Token → Bool) → Reader → Except Fault (Nat × Reader)
  | 0, _, _, r => .error r.unexpected
  | fuel + 1, room, ends, r =>
    match r.tokens with
    | .value :: _ => nodeUnless handles fuel room ends false false r.next
    | _ => .ok (r.add .empty)

end

/-- The directives in front of a document: at most one version, which must be of the first kind, and
each handle at most once. -/
def directives (version : Bool) (handles : List (String × String)) :
    List Token → Except Fault (List (String × String) × List Token)
  | .directive (.version major) :: ts =>
    if version || major != 1 then .error .malformed else directives true handles ts
  | .directive (.handle name address) :: ts =>
    if (handles.lookup name).isSome then .error .malformed
    else directives version (handles ++ [(name, address)]) ts
  | .directive .other :: ts => directives version handles ts
  | ts => .ok (handles, ts)

/-- Whether a document ends here, before any node. -/
def endsDocument : Token → Bool
  | .directive _ | .documentStart | .documentEnd => true
  | _ => false

/-- What follows a document: marks of its end, and nothing else. -/
def finish (r : Reader) : Except Fault Graph := do
  match r.tokens.dropWhile (· == .documentEnd) with
  | [] => return r.nodes
  | ts =>
    let (_, ts) ← directives false [] ts
    throw { r with tokens := ts }.unexpected

/-- The nodes of the document at the front of the tokens. -/
def document (handles : List (String × String)) (r : Reader) : Except Fault Graph := do
  let (_, r) ← node handles (4 * r.tokens.length + 4) maxDepth true false r
  r.finish

/-- The nodes of the document after its mark. -/
def markedDocument (handles : List (String × String)) (r : Reader) : Except Fault Graph :=
  if r.tokens.isEmpty || r.sees endsDocument then (r.add .empty).2.finish
  else r.document handles

end Reader

/-- The nodes of a text, by its tokens; an empty text has none. -/
def Graph.ofTokens? (ts : List Token) : Except Fault (Option Graph) := do
  let start (ts : List Token) : Reader := ⟨ts, #[], []⟩
  match ts with
  | [] => return none
  | .directive _ :: _ | .documentStart :: _ =>
    let (handles, ts) ← Reader.directives false [] ts
    let others := standardHandles.filter fun h => (handles.lookup h.1).isNone
    match ts with
    | .documentStart :: ts => return some (← (start ts).markedDocument (handles ++ others))
    | ts => throw (start ts).unexpected
  | ts => return some (← (start ts).document standardHandles)

end WidgetContracts.Markup
