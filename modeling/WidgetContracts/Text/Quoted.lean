/-
Quoted text: the form in which text and bytes stand inside a list or a mapping in a message.

* `quoteFor`: single quotes, unless the text holds a single quote and no double one.
* `quoted`: quoted text; the quote, the backslash, line ends, tabs and characters without a visible
  form are escaped.
* `quotedBytes`: quoted bytes, with the letter `b` in front.
-/
import WidgetContracts.Text.Printable

namespace WidgetContracts.Text

/-- The lower-case hexadecimal digit of a number below sixteen. -/
def hexDigit (n : Nat) : Char :=
  if n < 10 then Char.ofNat (48 + n) else Char.ofNat (87 + n)

/-- The lowest `width` hexadecimal digits of a number. -/
def hexDigits : (width : Nat) → Nat → List Char
  | 0, _ => []
  | width + 1, n => hexDigits width (n / 16) ++ [hexDigit (n % 16)]

/-- The escape of a code point: two, four or eight hexadecimal digits, as few as hold it. -/
def codeEscape (n : Nat) : List Char :=
  if n < 0x100 then '\\' :: 'x' :: hexDigits 2 n
  else if n < 0x10000 then '\\' :: 'u' :: hexDigits 4 n
  else '\\' :: 'U' :: hexDigits 8 n

/-- Single quotes, unless there is a single quote to enclose and no double one. -/
def quoteFor (hasSingle hasDouble : Bool) : Char :=
  if hasSingle && !hasDouble then '"' else '\''

/-- The escape that both quoted forms share, if a code point has one. -/
def sharedEscape? (quote : Char) (n : Nat) : Option (List Char) :=
  if n = quote.toNat then some ['\\', quote]
  else if n = 0x5c then some ['\\', '\\']
  else if n = 0x09 then some ['\\', 't']
  else if n = 0x0a then some ['\\', 'n']
  else if n = 0x0d then some ['\\', 'r']
  else none

/-- A code point inside quotes. Code points of unpaired surrogates have no visible form. -/
def quotedUnit (quote : Char) (n : Nat) : List Char :=
  match sharedEscape? quote n with
  | some cs => cs
  | none => if isPrintable n then [Char.ofNat n] else codeEscape n

/-- Code points in quotes. -/
def quotedUnits (units : List Nat) : List Char :=
  let quote := quoteFor (units.contains '\''.toNat) (units.contains '"'.toNat)
  quote :: units.flatMap (quotedUnit quote) ++ [quote]

/-- A text in quotes. -/
def quoted (cs : List Char) : List Char := quotedUnits (cs.map Char.toNat)

/-- A byte inside quotes. -/
def quotedByte (quote : Char) (b : UInt8) : List Char :=
  match sharedEscape? quote b.toNat with
  | some cs => cs
  | none => if 0x20 ≤ b ∧ b < 0x7f then [Char.ofNat b.toNat] else '\\' :: 'x' :: hexDigits 2 b.toNat

/-- Bytes in quotes. -/
def quotedBytes (bytes : List UInt8) : List Char :=
  let quote := quoteFor (bytes.contains 39) (bytes.contains 34)
  'b' :: quote :: bytes.flatMap (quotedByte quote) ++ [quote]

end WidgetContracts.Text
