/-
Reading decimal numbers.

* `natural?`: a non-empty run of ASCII digits.
* `Literal`: sign, digits and exponent of a decimal literal; `Literal.toFloat` is the nearest
  double.
* `literal?`: `12`, `12.`, `.5`, `1.5e-3`; a digit is required, a point and an exponent are not.
* `float?`: a literal or one of the names of infinity and of the value that is no number.
* `whole?`: a whole number in the digits of any script, with blanks around it and single underscores
  between its digits.
-/
import WidgetContracts.Decimal.Binary
import WidgetContracts.Text.Basic

namespace WidgetContracts.Decimal

/-- Whether a character is an ASCII digit. -/
def isDigit (c : Char) : Bool := '0' ≤ c && c ≤ '9'

/-- The number that a run of ASCII digits writes, after `acc` to their left. -/
def naturalFrom (acc : Nat) : List Char → Nat
  | [] => acc
  | c :: r => naturalFrom (10 * acc + (c.toNat - '0'.toNat)) r

/-- The number that a non-empty run of ASCII digits writes. -/
def natural? (cs : List Char) : Option Nat :=
  if !cs.isEmpty && cs.all isDigit then some (naturalFrom 0 cs) else none

/-- A decimal literal: `digits · 10 ^ exponent` with a sign. -/
structure Literal where
  negative : Bool
  digits : Nat
  exponent : Int

/-- The double nearest to a literal. -/
def Literal.toFloat (l : Literal) : Float := nearest l.negative l.digits l.exponent

/-- A sign, if there is one. -/
def takeSign : List Char → Bool × List Char
  | '-' :: r => (true, r)
  | '+' :: r => (false, r)
  | cs => (false, cs)

/-- An exponent part that fills the rest of a text; an empty rest stands for the exponent zero. -/
def exponentPart? : List Char → Option Int
  | [] => some 0
  | c :: r =>
    if c = 'e' ∨ c = 'E' then
      let (negative, ds) := takeSign r
      (natural? ds).map fun n => if negative then -(n : Int) else n
    else none

/-- A decimal literal that fills a text. -/
def literal? (cs : List Char) : Option Literal :=
  let (negative, r) := takeSign cs
  let whole := r.takeWhile isDigit
  let r := r.dropWhile isDigit
  let (fraction, r) := match r with
    | '.' :: r => (r.takeWhile isDigit, r.dropWhile isDigit)
    | r => ([], r)
  if whole.isEmpty && fraction.isEmpty then none
  else (exponentPart? r).map fun e =>
    ⟨negative, naturalFrom 0 (whole ++ fraction), e - fraction.length⟩

/-- ASCII letters in lower case, all else as it is. -/
def lowerAscii (cs : List Char) : List Char := cs.map Char.toLower

/-- The doubles that have names, in any case of letters. -/
def named? (cs : List Char) : Option Float :=
  let (negative, r) := takeSign cs
  let word := String.ofList (lowerAscii r)
  let infinity := Float.ofBits (if negative then 0xfff0000000000000 else 0x7ff0000000000000)
  if word = "inf" ∨ word = "infinity" then some infinity
  else if word = "nan" then some (Float.ofBits 0x7ff8000000000000)
  else none

/-- A double that fills a text. -/
def float? (cs : List Char) : Option Float :=
  match named? cs with
  | some x => some x
  | none => (literal? cs).map (·.toFloat)

/-- Whether underscores stand singly and inside a text. -/
def hasInnerUnderscores : List Char → Bool
  | [] => true
  | '_' :: _ => false
  | [_] => true
  | _ :: '_' :: r => !r.isEmpty && hasInnerUnderscores r
  | _ :: r => hasInnerUnderscores r

/-- Digits of any script as ASCII digits, without the blanks around them. -/
def plainDigits (cs : List Char) : List Char :=
  (Text.strip cs).map fun c =>
    match Text.digitValue? c with
    | some n => Char.ofNat ('0'.toNat + n)
    | none => c

/-- The number of digits that a whole number may have. -/
def maxDigits : Nat := 4300

/-- A number with its sign. -/
def signed (negative : Bool) (n : Nat) : Int := if negative then -(n : Int) else n

/-- A whole number that fills a text. -/
def whole? (cs : List Char) : Option Int :=
  let (negative, r) := takeSign (plainDigits cs)
  let ds := r.filter (· != '_')
  if hasInnerUnderscores r && ds.length ≤ maxDigits then (natural? ds).map (signed negative)
  else none

end WidgetContracts.Decimal
