/-
Addresses of resources.

* `Url`, `Url.text`: an address in its parts, each as it may stand in the text.
* `Url.Fault`: why a text is no address.
* `Url.read`: the address that a text names. Parts are escaped, schemes and hosts are in lower case,
  the usual port of a scheme is left out.
* `settle`: a path without its `.` and `..` segments.
* `Url.rooted`: an address without scheme or host as a path from the root.
* `Url.user?`: the name and password that an address gives.
-/
import WidgetContracts.Remote.Host

namespace WidgetContracts

/-- An address in its parts. -/
structure Url where
  scheme : List Char
  user : List Char
  host : Host
  port : Option Int
  path : List Char
  query : Option (List Char)
  fragment : Option (List Char)
  deriving DecidableEq, Repr

namespace Url

/-- Why a text is no address. -/
inductive Fault where
  | control (c : Char) (place : Nat)
  | tooLong
  | host (text : List Char)
  | port (text : List Char)
  | pathStart (text : List Char)
  deriving DecidableEq, Repr

/-- The wording of a fault. -/
def Fault.message : Fault → String
  | control c place =>
    let shown := String.ofList (Text.quoted [c])
    s!"Invalid non-printable ASCII character in URL, {shown} at position {place}."
  | tooLong => "URL too long"
  | host text => "Invalid host: " ++ String.ofList (Text.quoted text)
  | port text => "Invalid port: " ++ String.ofList (Text.quoted text)
  | pathStart text =>
    "Relative URLs cannot have a path starting with " ++ String.ofList (Text.quoted text)

/-- Addresses, and the parts of one that was put together, have at most this many characters. -/
def maxLength : Nat := 65536

/-- Whether a character is an ASCII control character. -/
def isControl (c : Char) : Bool := c.toNat < 0x20 || c.toNat == 0x7f

/-! ### Parting a text -/

/-- Whether a character may stand in a scheme. -/
def isSchemeCharacter (c : Char) : Bool :=
  c.isAlphanum || c == '+' || c == '.' || c == '-'

/-- The scheme in front of a colon, and what follows the colon. A scheme begins with a letter; a
colon at the front ends an empty one. -/
def takeScheme (cs : List Char) : List Char × List Char :=
  let scheme := cs.takeWhile isSchemeCharacter
  match cs.drop scheme.length with
  | ':' :: r => if scheme.head?.all Char.isAlpha then (scheme, r) else ([], cs)
  | _ => ([], cs)

/-- What follows two slashes, up to the path, the query or the fragment, and the rest. -/
def takeAuthority : List Char → List Char × List Char
  | '/' :: '/' :: r =>
    let isInside (c : Char) := c != '/' && c != '?' && c != '#'
    (r.takeWhile isInside, r.dropWhile isInside)
  | cs => ([], cs)

/-- The part that a mark begins, up to the character `stop`, and the rest. -/
def takeMarked (mark : Char) (isInside : Char → Bool) : List Char →
    Option (List Char) × List Char
  | [] => (none, [])
  | c :: r => if c = mark then (some (r.takeWhile isInside), r.dropWhile isInside)
    else (none, c :: r)

/-- Parts an authority at its last at-sign: the user and the host with the port. -/
def splitUser (cs : List Char) : List Char × List Char :=
  let host := (cs.reverse.takeWhile (· != '@')).reverse
  (cs.take (cs.length - host.length - 1), host)

/-- Parts a host from its port. Brackets at the front enclose colons. -/
def splitPort (cs : List Char) : List Char × List Char :=
  let n :=
    if cs.head? == some '[' && cs.contains ']' then
      cs.length - (cs.reverse.takeWhile (· != ']')).length
    else (cs.takeWhile (· != ':')).length
  match cs.drop n with
  | ':' :: r => (cs.take n, r)
  | r => (cs.take n, r)

/-! ### Paths -/

/-- Keeps the segments of a path that `.` and `..` leave; `kept` has the nearest first. The root is
never left. -/
def settleSegments (kept : List (List Char)) : List (List Char) → List (List Char)
  | [] => kept.reverse
  | s :: r =>
    if s = ['.'] then settleSegments kept r
    else if s = ['.', '.'] then
      settleSegments (if kept = [[]] then kept else kept.drop 1) r
    else settleSegments (s :: kept) r

/-- A path without its `.` and `..` segments. -/
def settle (cs : List Char) : List Char :=
  let parts := cs.splitOn '/'
  if parts.contains ['.'] || parts.contains ['.', '.'] then
    ['/'].intercalate (settleSegments [] parts)
  else cs

/-- What the path of an address without scheme and authority must not begin with. -/
def badStarts : List (List Char) := [['/', '/'], [':']]

/-! ### Reading -/

/-- The usual ports of schemes. -/
def usualPorts : List (String × Int) :=
  [("ftp", 21), ("http", 80), ("https", 443), ("ws", 80), ("wss", 443)]

/-- The port of an address, unless it is the usual one of the scheme, which must be in lower case to
count. -/
def readPort (scheme cs : List Char) : Except Fault (Option Int) :=
  if cs.isEmpty then .ok none
  else
    match Decimal.whole? cs with
    | none => .error (.port cs)
    | some n =>
      .ok (if usualPorts.lookup (String.ofList scheme) = some n then none else some n)

/-- Reads a text that is known to hold no control characters. -/
def readParts (cs : List Char) : Except Fault Url := do
  let (scheme, r) := takeScheme cs
  let (authority, r) := takeAuthority r
  let path := r.takeWhile fun c => c != '?' && c != '#'
  let (query, r) := takeMarked '?' (· != '#') (r.drop path.length)
  let (fragment, _) := takeMarked '#' (fun _ => true) r
  let (user, r) := splitUser authority
  let (hostText, portText) := splitPort r
  let host ← match Host.read? hostText with
    | some host => pure host
    | none => throw (.host hostText)
  let port ← readPort scheme portText
  let isBare := scheme.isEmpty && user.isEmpty && host.isNone && port.isNone
  match (if isBare then badStarts.find? (·.isPrefixOf path) else none) with
  | some start => throw (.pathStart start)
  | none =>
    return { scheme := Decimal.lowerAscii scheme
             user := escape escapedInUser user
             host := host
             port := port
             path := escape escapedInPath (if isBare then path else settle path)
             query := query.map (escape escapedInQuery)
             fragment := fragment.map (escape escapedInFragment) }

/-- The address that a text names. -/
def read (cs : List Char) : Except Fault Url :=
  if maxLength < cs.length then .error .tooLong
  else
    match cs.find? isControl with
    | some c => .error (.control c (cs.takeWhile fun d => !isControl d).length)
    | none => readParts cs

/-! ### Writing -/

/-- The host and port of an address. -/
def place (u : Url) : List Char :=
  u.host.text ++ (u.port.map fun n => ':' :: (toString n).toList).getD []

/-- A part after its mark, if there is one. -/
def marked (mark : Char) (part : Option (List Char)) : List Char :=
  (part.map (mark :: ·)).getD []

/-- The text of an address. -/
def text (u : Url) : String :=
  let authority := (if u.user.isEmpty then [] else u.user ++ ['@']) ++ u.place
  String.ofList <|
    (if u.scheme.isEmpty then [] else u.scheme ++ [':']) ++
      (if authority.isEmpty then [] else '/' :: '/' :: authority) ++
      u.path ++ marked '?' u.query ++ marked '#' u.fragment

/-! ### Asking -/

/-- Whether an address tells by itself where to ask. -/
def isAbsolute (u : Url) : Bool := !u.scheme.isEmpty && !u.host.isNone

/-- An address that does not tell where to ask as a path from the root, with its query. -/
def rooted (u : Url) : Except Fault Url :=
  let path := '/' :: u.path.dropWhile (· == '/')
  if u.isAbsolute then .ok u
  else if maxLength < path.length || u.query.any (maxLength < ·.length) then .error .tooLong
  else .ok ⟨[], [], .named [], none, path, u.query, none⟩

/-- The name and password, parted at the first colon, if one of them is not empty. -/
def user? (u : Url) : Option (List Char × List Char) :=
  let name := u.user.takeWhile (· != ':')
  let shown (cs : List Char) := Text.Utf8.decodeAll (unescape cs)
  let name' := shown name
  let password := shown (u.user.drop (name.length + 1))
  if name'.isEmpty && password.isEmpty then none else some (name', password)

end Url

end WidgetContracts
