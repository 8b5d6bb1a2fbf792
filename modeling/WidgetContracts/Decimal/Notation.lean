/-
How a double is written.

* `Style`: where positional notation ends, how an exponent looks, and the texts of the values that
  are no numbers of the line.
* `Style.render`: a double in a style, with the fewest digits that read back.
* `plain`: the style of messages and answers.
-/
import WidgetContracts.Decimal.Shortest

namespace WidgetContracts.Decimal

/-- How a double is written. Exponents from `positionalFrom` to below `positionalBelow` are written
without an exponent part; an exponent part has a sign and at least `exponentWidth` digits. -/
structure Style where
  positionalFrom : Int
  positionalBelow : Int
  exponentWidth : Nat
  infinity : String
  notANumber : String

/-- Exponents from −4 to 15 are written positionally, with a digit on each side of the point; all
others with a signed exponent of two digits or more, and a point only between digits. -/
def plain : Style := ⟨-4, 16, 2, "inf", "nan"⟩

/-- The decimal digits of a natural number. -/
def digitsOf (n : Nat) : List Char := Nat.toDigits 10 n

/-- Digits filled up with zeros in front. -/
def padded (width : Nat) (cs : List Char) : List Char :=
  List.replicate (width - cs.length) '0' ++ cs

/-- The digits `ds`, the first of which stands at exponent `e`, written with a point. -/
def positional (ds : List Char) (e : Int) : List Char :=
  if e < 0 then '0' :: '.' :: (List.replicate (-e - 1).toNat '0' ++ ds)
  else
    let whole := e.toNat + 1
    let left := ds.take whole ++ List.replicate (whole - ds.length) '0'
    let right := ds.drop whole
    left ++ '.' :: (if right.isEmpty then ['0'] else right)

/-- The digits `ds`, the first of which stands at exponent `e`, written with an exponent part. -/
def scientific (s : Style) (ds : List Char) (e : Int) : List Char :=
  let mantissa := match ds with
    | [] => []
    | [d] => [d]
    | d :: r => d :: '.' :: r
  mantissa ++ 'e' :: (if e < 0 then '-' else '+') :: padded s.exponentWidth (digitsOf e.natAbs)

/-- The magnitude `m · 2 ^ q` in a style. -/
def Style.magnitude (s : Style) (m : Nat) (q : Int) : List Char :=
  let (d, p) := shortest m q
  let ds := digitsOf d
  let e := if d = 0 then 0 else p + ds.length - 1
  if s.positionalFrom ≤ e ∧ e < s.positionalBelow then positional ds e else scientific s ds e

/-- A double in a style. -/
def Style.render (s : Style) (x : Float) : String :=
  let signed (negative : Bool) (cs : List Char) :=
    String.ofList (if negative then '-' :: cs else cs)
  match parts x with
  | .nan => s.notANumber
  | .infinite negative => signed negative s.infinity.toList
  | .finite negative m q => signed negative (s.magnitude m q)

end WidgetContracts.Decimal
