/-
Binary floating-point numbers as exact quantities: a sign and a natural number times a power of two.

* `Parts`, `parts`: a double taken apart.
* `roundDiv`: a quotient rounded to the nearest natural number, a half going to the even neighbour.
* `nearest`: the double nearest to `m · 10 ^ e`, a half going to the even neighbour.
-/
namespace WidgetContracts.Decimal

/-- A double taken apart: `m · 2 ^ q` with a sign, or a value that is no number of the line. -/
inductive Parts where
  | nan
  | infinite (negative : Bool)
  | finite (negative : Bool) (m : Nat) (q : Int)
  deriving DecidableEq, Repr

/-- Takes a double apart. -/
def parts (x : Float) : Parts :=
  let bits := x.toBits.toNat
  let negative := bits / Nat.pow 2 63 == 1
  let e : Nat := bits / Nat.pow 2 52 % Nat.pow 2 11
  let f : Nat := bits % Nat.pow 2 52
  if e = 2047 then (if f = 0 then .infinite negative else .nan)
  else if e = 0 then .finite negative f (-1074)
  else .finite negative (f + Nat.pow 2 52) (e - 1075)

/-- The natural number nearest to `n / d`, a half going to the even neighbour. -/
def roundDiv (n d : Nat) : Nat :=
  let q := n / d
  let r := n % d
  if 2 * r < d then q
  else if d < 2 * r then q + 1
  else if q % 2 = 0 then q else q + 1

/-- The quotient `n / d` divided by `2 ^ q`, as numerator and denominator. -/
def scaleTwo (n d : Nat) (q : Int) : Nat × Nat :=
  if 0 ≤ q then (n, d * Nat.pow 2 q.toNat) else (n * Nat.pow 2 (-q).toNat, d)

/-- The quotient `m · 10 ^ e` as numerator and denominator. -/
def scaleTen (m : Nat) (e : Int) : Nat × Nat :=
  if 0 ≤ e then (m * Nat.pow 10 e.toNat, 1) else (m, Nat.pow 10 (-e).toNat)

/-- The bits of the magnitude `m · 2 ^ q`, for `m < 2 ^ 53` that is at least `2 ^ 52` unless `q` is
the least exponent; infinity above the range. -/
def magnitudeBits (m : Nat) (q : Int) : Nat :=
  if m < Nat.pow 2 52 then m
  else if 971 < q then 2047 * Nat.pow 2 52
  else (q + 1075).toNat * Nat.pow 2 52 + (m - Nat.pow 2 52)

/-- The bits of the magnitude nearest to the positive quotient `n / d`. -/
def nearestBits (n d : Nat) : Nat :=
  let guess : Int := max ((n.log2 : Int) - d.log2 - 53) (-1074)
  let q :=
    if Nat.pow 2 53 ≤ (scaleTwo n d guess).1 / (scaleTwo n d guess).2 then guess + 1 else guess
  let m := roundDiv (scaleTwo n d q).1 (scaleTwo n d q).2
  if m = Nat.pow 2 53 then magnitudeBits (Nat.pow 2 52) (q + 1) else magnitudeBits m q

/-- The number of decimal digits of a natural number, zero having none. -/
def digitCount (n : Nat) : Nat := if n = 0 then 0 else (Nat.toDigits 10 n).length

/-- The double nearest to `m · 10 ^ e` with a sign. Far outside the range it is zero or infinite,
whatever the digits. -/
def nearest (negative : Bool) (m : Nat) (e : Int) : Float :=
  let size := (digitCount m : Int) + e
  let bits :=
    if m = 0 ∨ size < -330 then 0
    else if 330 < size then 2047 * Nat.pow 2 52
    else nearestBits (scaleTen m e).1 (scaleTen m e).2
  Float.ofBits (UInt64.ofNat (if negative then Nat.pow 2 63 + bits else bits))

end WidgetContracts.Decimal
