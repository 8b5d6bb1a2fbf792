/-
A place in a text: the characters that are left, and the line and column of the first of them.

* `isBreak`, `isBreakOrEnd`, `isGap`: the characters that end lines, and those that part words.
* `Cursor.advance`, `Cursor.span`: passing over one character, and over all that satisfy a
  predicate.
* `Cursor.takeBreak`: passing over one line end; line ends of the kinds that are only controls count
  as one kind.
* `Cursor.skipComment`: passing over spaces and a comment.
* `Cursor.left`: how many characters are left, by the count of those passed over.
* `Cursor.isPast`, `Cursor.fail`: what is wrong behind the text counts before any other fault, once
  the reading asks for what stands there.
-/
import WidgetContracts.Markup.Source

namespace WidgetContracts.Markup

/-- Whether a character ends a line. -/
def isBreak (c : Char) : Bool := c == '\n' || c == '\x85' || c == '\u2028' || c == '\u2029'

/-- Whether a line ends here: by a character, or with the text. -/
def isBreakOrEnd (c : Option Char) : Bool := c.all isBreak

/-- Whether a word ends here: by a space or with its line. -/
def isSpaceOrEnd (c : Option Char) : Bool := c.all fun c => c == ' ' || isBreak c

/-- Whether a word ends here: by a space or tab or with its line. -/
def isGap (c : Option Char) : Bool := c.all fun c => c == ' ' || c == '\t' || isBreak c

/-- A place in a text of `size` characters, `index` of which have been passed over and `seen` of
which have been looked at; what is wrong behind the text, if anything is. -/
structure Cursor where
  rest : List Char
  size : Nat
  index : Nat
  line : Nat
  column : Nat
  seen : Nat
  beyond : Option Fault

namespace Cursor

/-- The start of a text. -/
def start (text : Source) : Cursor := ⟨text.text, text.text.length, 0, 0, 0, 0, text.beyond⟩

/-- The number of characters that are left. -/
def left (c : Cursor) : Nat := c.size - c.index

/-- The next character. -/
def peek (c : Cursor) : Option Char := c.rest.head?

/-- The character after the next `n`. -/
def peekAt (c : Cursor) (n : Nat) : Option Char := c.rest[n]?

/-- The place after a character, where `rest` is left. A mark of the byte order has no width. -/
def past (c : Cursor) (ch : Char) (rest : List Char) : Cursor :=
  let c := { c with rest := rest, index := c.index + 1 }
  if isBreak ch then { c with line := c.line + 1, column := 0 }
  else if ch = '\ufeff' then c
  else { c with column := c.column + 1 }

/-- Passes over one character. -/
def advance (c : Cursor) : Cursor :=
  match c.rest with
  | [] => c
  | ch :: r => c.past ch r

/-- Passes over `n` characters. -/
def advanceBy : Nat → Cursor → Cursor
  | 0, c => c
  | n + 1, c => advanceBy n c.advance

/-- Characters at the front of `rest` that satisfy a predicate, and the place after them. -/
def spanFrom (p : Char → Bool) : (rest : List Char) → Cursor → List Char × Cursor
  | [], c => ([], c)
  | ch :: r, c =>
    if p ch then
      let (cs, c') := spanFrom p r (c.past ch r)
      (ch :: cs, c')
    else ([], c)

/-- The characters up to the first that does not satisfy a predicate, and the place after them. -/
def span (p : Char → Bool) (c : Cursor) : List Char × Cursor := spanFrom p c.rest c

/-- Passes over the characters that satisfy a predicate. -/
def skip (p : Char → Bool) (c : Cursor) : Cursor := (c.span p).2

/-- Passes over a line end, if one stands here, and gives the character that it counts as. -/
def takeBreak (c : Cursor) : Option Char × Cursor :=
  match c.peek with
  | some ch =>
    if isBreak ch then (some (if ch = '\x85' then '\n' else ch), c.advance) else (none, c)
  | none => (none, c)

/-- Passes over spaces, and over a comment up to the end of its line. -/
def skipComment (c : Cursor) : Cursor :=
  let c := c.skip (· == ' ')
  if c.peek = some '#' then c.skip (!isBreak ·) else c

/-- Looks at the next `n` characters without passing over them. -/
def look (n : Nat) (c : Cursor) : Cursor := { c with seen := max c.seen (c.index + n) }

/-- Whether the reading asks for what is behind the text. It always asks for the next character. -/
def isPast (c : Cursor) : Bool := c.left == 0 || c.size < c.seen

/-- The fault behind the text, if the reading asks for what is there. -/
def pastFault? (c : Cursor) : Option Fault := if c.isPast then c.beyond else none

/-- The end of the reading by a fault. -/
def fail {α : Type} (fault : Fault) (c : Cursor) : Except Fault α :=
  .error (c.pastFault?.getD fault)

/-- Whether three equal characters stand here and then a gap. -/
def isMark (c : Cursor) (ch : Char) : Bool :=
  c.rest.take 3 == [ch, ch, ch] && isGap (c.peekAt 3)

/-- Whether the mark of the start or the end of a document stands here. -/
def isDocumentMark (c : Cursor) : Bool := c.isMark '-' || c.isMark '.'

/-- Looks for a mark of a document, and for the gap after its three characters. -/
def lookForMark (c : Cursor) : Cursor :=
  let front := c.rest.take 3
  c.look (if front == ['-', '-', '-'] || front == ['.', '.', '.'] then 4 else 3)

end Cursor

end WidgetContracts.Markup
