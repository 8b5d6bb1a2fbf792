/-
From a text in the YAML notation to its tokens.

Blocks are told by their indentation, so their starts and ends are tokens that no character stands
for. A scalar, alias or collection in brackets may turn out to be a key when a colon follows on its
line, not too far away: then the token for a key is put in front of it afterwards.

* `PossibleKey`: a token that may yet turn out to be a key.
* `Scan`: what is known at a place of the text.
* `Scan.step`: reads the next token.
* `tokens`: the tokens of a text; the last one is `broken` if the text cannot be read to its end.
-/
import WidgetContracts.Markup.Source
import WidgetContracts.Markup.Token.Scalars
import WidgetContracts.Markup.Token.Words

namespace WidgetContracts.Markup

/-- A token that may yet turn out to be a key: the number of tokens before it, and its place. A
required one stands where a key must stand. -/
structure PossibleKey where
  before : Nat
  required : Bool
  index : Nat
  line : Nat
  column : Nat

/-- A key ends at most this many characters before its colon. -/
def maxKeyDistance : Nat := 1024

/-- What is known at a place of the text: the tokens so far (the last one first) and their number,
the number of open brackets, the indentation of the open blocks (the innermost first), whether a key
may stand here, and the tokens that may turn out to be keys, by the number of brackets around them.
-/
structure Scan where
  cursor : Cursor
  tokens : List Token
  count : Nat
  flowLevel : Nat
  indent : Int
  indents : List Int
  keyAllowed : Bool
  keys : List (Nat × PossibleKey)

namespace Scan

/-- The start of a text. -/
def start (text : Source) : Scan := ⟨.start text, [], 0, 0, -1, [], true, []⟩

/-- Whether brackets are open. -/
def inFlow (s : Scan) : Bool := s.flowLevel != 0

/-- Adds a token. -/
def emit (s : Scan) (t : Token) : Scan := { s with tokens := t :: s.tokens, count := s.count + 1 }

/-- Puts a token in front of those that came after the first `before`. -/
def insert (s : Scan) (before : Nat) (t : Token) : Scan :=
  let after := s.count - before
  { s with tokens := s.tokens.take after ++ t :: s.tokens.drop after, count := s.count + 1 }

/-- Passes over `n` characters that are a token. -/
def mark (s : Scan) (n : Nat) (t : Token) : Scan :=
  { s with cursor := s.cursor.advanceBy n }.emit t

/-! ### Keys -/

/-- Drops the tokens that can no longer turn out to be keys. -/
def dropStale (s : Scan) : Except Fault Scan :=
  let isStale (k : Nat × PossibleKey) : Bool :=
    k.2.line != s.cursor.line || maxKeyDistance < s.cursor.index - k.2.index
  if s.keys.any fun k => isStale k && k.2.required then .error .malformed
  else .ok { s with keys := s.keys.filter (!isStale ·) }

/-- Drops the token that might have turned out to be a key inside the innermost brackets. -/
def dropKey (s : Scan) : Except Fault Scan :=
  match s.keys.lookup s.flowLevel with
  | some k =>
    if k.required then .error .malformed
    else .ok { s with keys := s.keys.filter (·.1 != s.flowLevel) }
  | none => .ok s

/-- Remembers that the next token may turn out to be a key. -/
def saveKey (s : Scan) : Except Fault Scan :=
  if s.keyAllowed then do
    let required := !s.inFlow && s.indent == s.cursor.column
    let key : PossibleKey :=
      ⟨s.count, required, s.cursor.index, s.cursor.line, s.cursor.column⟩
    let s ← s.dropKey
    return { s with keys := (s.flowLevel, key) :: s.keys }
  else .ok s

/-! ### Indentation -/

/-- Closes the blocks that are indented more than a column, given those around the innermost. -/
def unwindTo (column : Int) : (indents : List Int) → Scan → Scan
  | [], s => s
  | i :: r, s =>
    if column < s.indent then
      unwindTo column r ({ s with indent := i, indents := r }.emit .blockEnd)
    else s

/-- Closes the blocks that are indented more than a column. -/
def unwind (column : Int) (s : Scan) : Scan :=
  if s.inFlow then s else unwindTo column s.indents s

/-- Opens a block at a column that is indented more than the innermost one. -/
def openAt (column : Nat) (before : Nat) (t : Token) (s : Scan) : Scan :=
  if s.indent < column then
    { s with indents := s.indent :: s.indents, indent := column }.insert before t
  else s

/-! ### The kinds of tokens -/

/-- Passes over spaces, comments and line ends in front of a token. A key may stand on a new line
outside brackets. `fuel` bounds the steps. -/
def skipToToken : (fuel : Nat) → Scan → Scan
  | 0, s => s
  | fuel + 1, s =>
    let c := s.cursor.skipComment
    match c.takeBreak with
    | (none, _) => { s with cursor := c }
    | (some _, c) =>
      skipToToken fuel { s with cursor := c, keyAllowed := s.keyAllowed || !s.inFlow }

/-- A directive, or a mark of a document: all blocks end. -/
def endBlocks (s : Scan) : Except Fault Scan := do
  let s ← (s.unwind (-1)).dropKey
  return { s with keyAllowed := false }

/-- An opening bracket. -/
def openFlow (t : Token) (s : Scan) : Except Fault Scan := do
  let s ← s.saveKey
  return { s with flowLevel := s.flowLevel + 1, keyAllowed := true }.mark 1 t

/-- A closing bracket, which must close one. -/
def closeFlow (t : Token) (s : Scan) : Except Fault Scan := do
  let s ← s.dropKey
  if s.flowLevel = 0 then s.cursor.advance.fail .malformed
  return { s with flowLevel := s.flowLevel - 1, keyAllowed := false }.mark 1 t

/-- A comma inside brackets. -/
def flowEntry (s : Scan) : Except Fault Scan := do
  let s ← s.dropKey
  return { s with keyAllowed := true }.mark 1 .flowEntry

/-- The mark of a member of a list. -/
def entry (s : Scan) : Except Fault Scan := do
  if !s.inFlow && !s.keyAllowed then throw .malformed
  let s := if s.inFlow then s else s.openAt s.cursor.column s.count .sequenceStart
  let s ← s.dropKey
  return { s with keyAllowed := true }.mark 1 .entry

/-- The mark of a key. -/
def key (s : Scan) : Except Fault Scan := do
  if !s.inFlow && !s.keyAllowed then throw .malformed
  let s := if s.inFlow then s else s.openAt s.cursor.column s.count .mappingStart
  let s ← s.dropKey
  return { s with keyAllowed := !s.inFlow }.mark 1 .key

/-- The mark of a value. What may have turned out to be a key is one now. -/
def value (s : Scan) : Except Fault Scan := do
  match s.keys.lookup s.flowLevel with
  | some k =>
    let s := { s with keys := s.keys.filter (·.1 != s.flowLevel), keyAllowed := false }
    let s := s.insert k.before .key
    let s := if s.inFlow then s else s.openAt k.column k.before .mappingStart
    return s.mark 1 .value
  | none =>
    if !s.inFlow && !s.keyAllowed then throw .malformed
    let s := if s.inFlow then s else s.openAt s.cursor.column s.count .mappingStart
    let s ← { s with keyAllowed := !s.inFlow }.dropKey
    return s.mark 1 .value

/-- A token that may turn out to be a key, read by a given reader. -/
def keyLike (read : Cursor → Except Fault (Token × Cursor)) (s : Scan) : Except Fault Scan := do
  let s ← s.saveKey
  let (t, c) ← read s.cursor
  return { s with cursor := c, keyAllowed := false }.emit t

/-- A block scalar. -/
def block (folded : Bool) (s : Scan) : Except Fault Scan := do
  let s ← { s with keyAllowed := true }.dropKey
  let (t, c) ← readBlock folded s.indent s.cursor
  return { s with cursor := c }.emit t

/-- A plain scalar; a key may follow it on a new line. -/
def plain (s : Scan) : Except Fault Scan := do
  let s ← s.saveKey
  let (t, lineEnded, c) := readPlain s.inFlow (s.indent + 1) s.cursor
  return { s with cursor := c, keyAllowed := lineEnded }.emit t

/-- The characters that begin no plain scalar, unless the next one makes it so. -/
def indicators : List Char := "-?:,[]\x7b\x7d#&*!|>'\"%@`".toList

/-- Whether a plain scalar begins here. -/
def beginsPlain (s : Scan) : Bool :=
  match s.cursor.peek with
  | none => false
  | some c =>
    (!isGap (some c) && !indicators.contains c) ||
      (!isGap (s.cursor.peekAt 1) && (c == '-' || (!s.inFlow && (c == '?' || c == ':'))))

/-- A word of a single token, of which the next character is its mark. -/
def named (make : String → Token) (c : Cursor) : Except Fault (Token × Cursor) := do
  let (name, c) ← readAnchor c.advance
  return (make name, c)

/-- Reads the token that begins with a character. -/
def token (ch : Char) (s : Scan) : Except Fault Scan := do
  let atStart := s.cursor.column == 0
  let gapAfter := isGap (s.cursor.peekAt 1)
  if ch == '%' && atStart then
    let s ← s.endBlocks
    let (d, c) ← readDirective s.cursor
    return { s with cursor := c }.emit (.directive d)
  else if atStart && s.cursor.isMark '-' then return (← s.endBlocks).mark 3 .documentStart
  else if atStart && s.cursor.isMark '.' then return (← s.endBlocks).mark 3 .documentEnd
  else if ch == '[' then s.openFlow .flowSequenceStart
  else if ch == '\x7b' then s.openFlow .flowMappingStart
  else if ch == ']' then s.closeFlow .flowSequenceEnd
  else if ch == '\x7d' then s.closeFlow .flowMappingEnd
  else if ch == ',' then s.flowEntry
  else if ch == '-' && gapAfter then s.entry
  else if ch == '?' && (s.inFlow || gapAfter) then s.key
  else if ch == ':' && (s.inFlow || gapAfter) then s.value
  else if ch == '*' then s.keyLike (named .alias)
  else if ch == '&' then s.keyLike (named .anchor)
  else if ch == '!' then s.keyLike readTag
  else if ch == '|' && !s.inFlow then s.block false
  else if ch == '>' && !s.inFlow then s.block true
  else if ch == '\'' || ch == '"' then s.keyLike (readQuoted ch)
  else if s.beginsPlain then s.plain
  else (s.cursor.look 2).fail .malformed

/-- The place as it is, unless the reading has asked for what is behind the text and something is
wrong there. -/
def checked (s : Scan) : Except Fault Scan :=
  match s.cursor.pastFault? with
  | some fault => .error fault
  | none => .ok s

/-- The cursor with as much seen as tells apart the tokens that begin with one character. -/
def lookAhead (s : Scan) : Cursor :=
  let c := s.cursor
  let mayBeMark := c.column == 0 && (c.peek == some '-' || c.peek == some '.')
  let c := if mayBeMark then c.lookForMark else c
  if c.peek == some '-' || (!s.inFlow && (c.peek == some '?' || c.peek == some ':')) then c.look 2
  else c

/-- The place in front of the next token, of which enough is seen to tell its kind. -/
def arrive (s : Scan) : Except Fault Scan := do
  let s ← s.dropStale
  let s ← (s.skipToToken (s.cursor.left + 1)).checked
  let s ← s.dropStale
  { s with cursor := s.lookAhead }.checked

/-- Reads the next token; nothing at the end of the text, where all blocks end. -/
def step (s : Scan) : Except Fault (Option Scan × Scan) := do
  let s ← s.arrive
  match s.cursor.peek with
  | none => return (none, ← s.endBlocks)
  | some ch =>
    let next ← (s.unwind s.cursor.column).token ch
    return (some (← next.checked), s)

/-- The tokens in front of the first one that may yet turn out to be a key. -/
def settled (s : Scan) : List Token :=
  let s := match s.dropStale with
    | .ok s => s
    | .error _ => s
  match (s.keys.map (·.2.before)).min? with
  | some n => s.tokens.drop (s.count - n)
  | none => s.tokens

/-- Reads tokens to the end of the text, at most `fuel` of them. A fault hides the tokens that could
not be settled before it. -/
def run : (fuel : Nat) → Scan → List Token
  | 0, s => .broken .malformed :: s.tokens
  | fuel + 1, s =>
    match s.step with
    | .error fault => .broken fault :: s.settled
    | .ok (some s, _) => run fuel s
    | .ok (none, s) => s.tokens

end Scan

/-- A text without the mark of the byte order at its front. -/
def dropByteOrderMark : List Char → List Char
  | '\ufeff' :: r => r
  | cs => cs

/-- The tokens of a text. -/
def tokens (text : Source) : List Token :=
  let text := { text with text := dropByteOrderMark text.text }
  (Scan.run (text.text.length + 2) (.start text)).reverse

end WidgetContracts.Markup
