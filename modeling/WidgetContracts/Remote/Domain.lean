/-
Names of hosts in all scripts, and their form in ASCII.

* `isLabel`: whether code points may stand between the dots of a name. Each must be allowed by
  itself, some only beside certain others; the text must be composed, and must not mix directions.
* `encodeLabel?`: a label in ASCII.
* `encode?`: a whole name in ASCII.
-/
import WidgetContracts.Remote.Domain.Tables
import WidgetContracts.Text.Casing
import WidgetContracts.Text.Composition
import WidgetContracts.Text.Punycode

namespace WidgetContracts.Domain

open Text

/-! ### Single code points -/

/-- Whether a code point may stand anywhere in a label. No letter with a lower case does. -/
def isValid (u : Nat) : Bool :=
  validBounds.has u && u.isValidChar && lowerOf (Char.ofNat u) == [Char.ofNat u]

/-- Whether a code point is a mark. -/
def isMark (u : Nat) : Bool := markBounds.has u || spacingMarkBounds.has u

/-- The combining class of the marks that silence a vowel. -/
def silencing : Nat := 9

/-- Whether the nearest code point that is no mark joins in a direction: both ways or as given. -/
def meetsJoining (bounds : Bounds) (us : List Nat) : Bool :=
  match us.dropWhile markBounds.has with
  | [] => false
  | u :: _ => bounds.has u || joinsBothBounds.has u

/-- Whether code points hold one of the ten digits from `first` on. -/
def hasDigitOf (first : Nat) (us : List Nat) : Bool := us.any fun u => first ≤ u && u < first + 10

/-- Whether a code point may stand after the code points `before` (nearest first) and before
`after`. -/
def isValidBetween (before after : List Nat) (u : Nat) : Bool :=
  let afterSilencing := before.head?.any fun v => combiningClass v == silencing
  if u = 0x200c then
    afterSilencing || (meetsJoining joinsLeftBounds before && meetsJoining joinsRightBounds after)
  else if u = 0x200d then afterSilencing
  else if u = 0xb7 then before.head? == some 0x6c && after.head? == some 0x6c
  else if u = 0x375 then after.head?.any greekBounds.has
  else if u = 0x5f3 ∨ u = 0x5f4 then before.head?.any hebrewBounds.has
  else if u = 0x30fb then
    (before ++ after).any fun v => v != 0x30fb && japaneseBounds.has v
  else if 0x660 ≤ u ∧ u ≤ 0x669 then !hasDigitOf 0x6f0 (before ++ after)
  else if 0x6f0 ≤ u ∧ u ≤ 0x6f9 then !hasDigitOf 0x660 (before ++ after)
  else isValid u

/-- Whether all code points may stand where they do, after the code points `before`. -/
def areValidAfter (before : List Nat) : List Nat → Bool
  | [] => true
  | u :: r => isValidBetween before r u && areValidAfter (u :: before) r

/-! ### Directions -/

/-- The direction in which a code point runs. -/
inductive Direction where
  | left
  | right
  | number
  | arabicNumber
  | mark
  | neutral
  deriving DecidableEq, Repr

/-- The direction of a code point that may stand in a label. -/
def Direction.of (u : Nat) : Direction :=
  if rightBounds.has u then right
  else if numberBounds.has u then number
  else if arabicNumberBounds.has u then arabicNumber
  else if neutralBounds.has u then neutral
  else if markBounds.has u && !leftMarkBounds.has u then mark
  else left

/-- Whether directions go together. With a letter or digit that runs from the right, a label begins
with such a letter, holds nothing that runs from the left and only one kind of digits, and ends with
a letter or digit but for marks. -/
def goTogether (ds : List Direction) : Bool :=
  if ds.contains .right || ds.contains .arabicNumber then
    ds.head? == some .right && !ds.contains .left &&
      !(ds.contains .number && ds.contains .arabicNumber) &&
      ((ds.reverse.dropWhile (· == .mark)).head?.any fun d => d != .neutral)
  else true

/-! ### Labels -/

/-- Whether hyphens stand at neither end of a label, nor in its third and fourth places. -/
def hasGoodHyphens (us : List Nat) : Bool :=
  us.head? != some 0x2d && us.getLast? != some 0x2d && (us.drop 2).take 2 != [0x2d, 0x2d]

/-- Whether code points are a label. -/
def isLabel (us : List Nat) : Bool :=
  !us.isEmpty && hasGoodHyphens us && !us.head?.any isMark && areValidAfter [] us &&
    isComposed us && goTogether (us.map Direction.of)

/-- What stands in front of a label that is written in ASCII. -/
def asciiFront : List Char := ['x', 'n', '-', '-']

/-- Whether an ASCII text is a label; what follows the front must be the written form of one. -/
def isAsciiLabel (cs : List Char) : Bool :=
  if asciiFront.isPrefixOf cs then
    let written := cs.drop asciiFront.length
    !written.isEmpty && written.getLast? != some '-' &&
      (Punycode.decode? written).any isLabel
  else isLabel (cs.map Char.toNat)

/-- The characters that a label in ASCII may have. -/
def maxLabel : Nat := 63

/-- A label in ASCII. -/
def encodeLabel? (cs : List Char) : Option (List Char) :=
  let isAscii := cs.all fun c => c.toNat < 0x80
  let written := if isAscii then cs else asciiFront ++ Punycode.encode cs
  let isGood := if isAscii then isAsciiLabel cs else isLabel (cs.map Char.toNat)
  if isGood && written.length ≤ maxLabel then some written else none

/-! ### Names -/

/-- Whether a character parts labels. -/
def isDot (c : Char) : Bool := c == '.' || c == '\u3002' || c == '\uff0e' || c == '\uff61'

/-- The labels of a name. -/
def labels (cs : List Char) : List (List Char) := cs.splitOnP isDot

/-- The characters that a name in ASCII may have, a dot at its end not counted. -/
def maxName : Nat := 253

/-- A name in ASCII; a dot at its end stays. -/
def encode? (cs : List Char) : Option (List Char) := do
  let parts := labels cs
  let isRooted := parts.getLast? == some []
  let written ← (if isRooted then parts.dropLast else parts).mapM encodeLabel?
  let name := ['.'].intercalate written
  if written.isEmpty || maxName < name.length then none
  else return name ++ (if isRooted then ['.'] else [])

end WidgetContracts.Domain
