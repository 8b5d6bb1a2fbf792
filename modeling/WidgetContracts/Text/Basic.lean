/-
Classes of characters, and texts that may be left out.

* `given`, `orElse`: a text that may be left out. An empty text counts as left out.
* `Bounds`: a set of code points, written as the bounds of its intervals; a code point is in the set
  when an odd number of bounds are at or below it.
* `isBlank`, `strip`: white space in the wide sense, of twenty-nine characters: the separators of
  Unicode and the control characters that separate text.
* `unifyLineEnds`: line ends as they are kept in files. A carriage return, alone or with a line feed
  after it, becomes a line feed.
* `digitValue?`: decimal digits of all scripts. Each script has ten consecutive code points, so a
  digit is found by the zero of its script.
* `hexValue?`, `hexNumber?`: hexadecimal digits of ASCII, and the number that they write.
-/
namespace WidgetContracts

/-! ### Texts that may be left out -/

/-- A text that is given: there, and not empty. -/
def given (s : Option String) : Option String := s.filter (· != "")

/-- The text itself unless it is empty, else another. -/
def orElse (s t : String) : String := if s = "" then t else s

namespace Text

/-! ### Sets of code points -/

/-- A set of code points `[a₀, b₀) ∪ [a₁, b₁) ∪ …`, written `[a₀, b₀, a₁, b₁, …]` in ascending
order. -/
abbrev Bounds := List Nat

namespace Bounds

/-- Whether a code point is in the set. -/
def has : Bounds → Nat → Bool
  | [], _ => false
  | b :: bs, c => if c < b then false else !has bs c

end Bounds

/-! ### White space and line ends -/

/-- Whether a character is blank: a separator of Unicode, or a control character that separates. -/
def isBlank (c : Char) : Bool :=
  let n := c.toNat
  (9 ≤ n && n ≤ 13) || (28 ≤ n && n ≤ 32) || n == 0x85 || n == 0xa0 || n == 0x1680 ||
    (0x2000 ≤ n && n ≤ 0x200a) || n == 0x2028 || n == 0x2029 || n == 0x202f || n == 0x205f ||
    n == 0x3000

/-- Characters without those at the end that satisfy a predicate. -/
def dropEndWhile (p : Char → Bool) (cs : List Char) : List Char :=
  (cs.reverse.dropWhile p).reverse

/-- Characters without the blank ones at the two ends. -/
def strip (cs : List Char) : List Char :=
  dropEndWhile isBlank (cs.dropWhile isBlank)

/-- A text whose lines all end with a line feed alone. -/
def unifyLineEnds : List Char → List Char
  | [] => []
  | '\r' :: '\n' :: r => '\n' :: unifyLineEnds r
  | c :: r => (if c = '\r' then '\n' else c) :: unifyLineEnds r

/-! ### Digits -/

/-- The digit zero of each script. -/
def zeros : List Nat :=
  [0x30, 0x660, 0x6f0, 0x7c0, 0x966, 0x9e6, 0xa66, 0xae6, 0xb66, 0xbe6, 0xc66, 0xce6, 0xd66,
   0xde6, 0xe50, 0xed0, 0xf20, 0x1040, 0x1090, 0x17e0, 0x1810, 0x1946, 0x19d0, 0x1a80, 0x1a90,
   0x1b50, 0x1bb0, 0x1c40, 0x1c50, 0xa620, 0xa8d0, 0xa900, 0xa9d0, 0xa9f0, 0xaa50, 0xabf0, 0xff10,
   0x104a0, 0x10d30, 0x11066, 0x110f0, 0x11136, 0x111d0, 0x112f0, 0x11450, 0x114d0, 0x11650,
   0x116c0, 0x11730, 0x118e0, 0x11950, 0x11c50, 0x11d50, 0x11da0, 0x16a60, 0x16ac0, 0x16b50,
   0x1d7ce, 0x1d7d8, 0x1d7e2, 0x1d7ec, 0x1d7f6, 0x1e140, 0x1e2f0, 0x1e950, 0x1fbf0]

/-- The value of a character as a decimal digit of any script. -/
def digitValue? (c : Char) : Option Nat :=
  (zeros.find? fun z => z ≤ c.toNat && c.toNat < z + 10).map (c.toNat - ·)

/-- The value of an ASCII digit. -/
def asciiDigitValue? (c : Char) : Option Nat :=
  if '0' ≤ c ∧ c ≤ '9' then some (c.toNat - '0'.toNat) else none

/-- The value of a character as an ASCII hexadecimal digit of either case. -/
def hexValue? (c : Char) : Option Nat :=
  if '0' ≤ c ∧ c ≤ '9' then some (c.toNat - '0'.toNat)
  else if 'a' ≤ c ∧ c ≤ 'f' then some (c.toNat - 'a'.toNat + 10)
  else if 'A' ≤ c ∧ c ≤ 'F' then some (c.toNat - 'A'.toNat + 10)
  else none

/-- The number written by hexadecimal digits, most significant first. -/
def hexNumber? (cs : List Char) : Option Nat :=
  cs.foldl (fun n c => do return 16 * (← n) + (← hexValue? c)) (some 0)

end Text

end WidgetContracts
