/-
The text of a file as far as it can be read.

* `Fault`: a text breaks the rules of the notation, or writes a value that there is none of.
* `isAllowed`: the characters that may stand in a text in the YAML notation.
* `Source`: the characters of a file, and the fault that stands behind them, if there is one.
* `Intake`: a file in the middle of being read; bytes are decoded in portions of one size, and
  characters are handed on in portions of another.
* `Source.ofBytes`: a fault takes with it the whole portion in which it stands. It counts only when
  the reading gets there.
-/
import WidgetContracts.Text.Basic
import WidgetContracts.Text.Utf8

namespace WidgetContracts.Markup

/-- What is wrong with a text.

It breaks the rules of the notation (`malformed`); its bytes encode no text (`notText`); a number, a
day or the code of a character is none (`badValue`), or a number is too great (`tooGreat`); lists
and mappings stand too deep inside each other (`tooDeep`). Or a tag claims a kind that the text
cannot be: no truth value (`notFlag`), a number without characters (`noCharacters`), no day
(`notDay`), or a whole mapping for a day (`mappingForDay`). -/
inductive Fault where
  | malformed
  | notText
  | badValue
  | tooGreat
  | tooDeep
  | notFlag
  | noCharacters
  | notDay
  | mappingForDay
  deriving DecidableEq, Repr

/-- Whether a character may stand in a text in this notation. -/
def isAllowed (c : Char) : Bool :=
  let n := c.toNat
  n == 0x09 || n == 0x0a || n == 0x0d || (0x20 ≤ n && n ≤ 0x7e) || n == 0x85 ||
    (0xa0 ≤ n && n ≤ 0xd7ff) || (0xe000 ≤ n && n ≤ 0xfffd) || 0x10000 ≤ n

/-- The characters of a text as far as they can be read, and what is wrong behind them. -/
structure Source where
  text : List Char
  beyond : Option Fault
  deriving Repr

/-- Characters are handed on in portions of this size. -/
def portion : Nat := 4096

/-- The characters in so many portions, of which the first two are handed on at once. -/
def handedOn (portions : Nat) : Nat := if portions < 2 then 0 else portions * portion

/-- At least so many bytes are decoded at a time. -/
def bytePortion : Nat := 8192

/-- A file in the middle of being read: the bytes that are left, those in front of them that begin a
character, whether a carriage return is held back since a line feed may follow, the number of
characters that are decoded and not handed on, and the bytes and characters that were decoded
last. -/
structure Intake where
  left : List UInt8
  cut : List UInt8
  held : Bool
  ready : Nat
  lastBytes : Nat
  lastCharacters : Nat

namespace Intake

/-- The start of a file. -/
def start (bytes : List UInt8) : Intake := ⟨bytes, [], false, 0, 0, 0⟩

/-- How many bytes are decoded next: as many as the characters that are wanted took last time. -/
def nextSize (i : Intake) : Nat :=
  max bytePortion (i.lastBytes * (portion - i.ready) / i.lastCharacters)

/-- Decodes more bytes, if there are any and they are text. -/
def decodeMore? (i : Intake) : Option Intake :=
  let bytes := i.left.take i.nextSize
  let (cs, cut) := Text.Utf8.front (i.cut ++ bytes)
  if bytes.isEmpty || (!cut.isEmpty && !Text.Utf8.isCut cut) then none
  else
    let cs := if i.held then '\r' :: cs else cs
    let held := cs.getLast? == some '\r'
    let n := (Text.unifyLineEnds (if held then cs.dropLast else cs)).length
    some ⟨i.left.drop i.nextSize, cut, held, i.ready + n, bytes.length, n⟩

/-- The number of portions of characters that are handed on before bytes are met that are no text;
`fuel` bounds the steps. -/
def portions : (fuel : Nat) → Intake → Nat
  | 0, _ => 0
  | fuel + 1, i =>
    if portion ≤ i.ready then portions fuel { i with ready := i.ready - portion } + 1
    else
      match i.decodeMore? with
      | some i => portions fuel i
      | none => 0

end Intake

namespace Source

/-- A text without the portion in which a character stands that is not allowed. -/
def ofText (text : List Char) : Source :=
  let n := (text.takeWhile isAllowed).length
  if n = text.length then ⟨text, none⟩
  else ⟨text.take (handedOn (n / portion)), some .malformed⟩

/-- The text in a file, as far as it can be read. -/
def ofBytes (bytes : List UInt8) : Source :=
  match Text.Utf8.front bytes with
  | (cs, []) => ofText (Text.unifyLineEnds cs)
  | (cs, _) =>
    let n := handedOn (Intake.portions (bytes.length + 2) (.start bytes))
    let source := ofText ((Text.unifyLineEnds cs).take n)
    { source with beyond := some (source.beyond.getD .notText) }

end Source

end WidgetContracts.Markup
