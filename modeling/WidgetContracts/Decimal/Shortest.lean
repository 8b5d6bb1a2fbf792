/-
The fewest decimal digits that read back as a given double, and of those the nearest to it.

* `Reach`: the reals that round to `m · 2 ^ q`, measured in quarters of the last place.
* `exponentOf`: the decimal exponent of the leading digit.
* `shortest`: digits `d` and exponent `p` with `d · 10 ^ p` the shortest decimal in reach.
-/
import WidgetContracts.Decimal.Binary

namespace WidgetContracts.Decimal

/-- The reals that round to `m · 2 ^ q`: from `low` to `high` quarters of the last place, the ends
included when `closed`. Below a power of two the neighbour is only half as far. -/
structure Reach where
  low : Nat
  mid : Nat
  high : Nat
  closed : Bool

/-- The reach of `m · 2 ^ q`. -/
def reach (m : Nat) (q : Int) : Reach :=
  { low := 4 * m - (if m = Nat.pow 2 52 ∧ -1074 < q then 1 else 2)
    mid := 4 * m
    high := 4 * m + 2
    closed := m % 2 == 0 }

/-- A quarter of the last place of `2 ^ q` against `10 ^ p`: `a` quarters compare with `b` units of
the decimal grid as `a · k.1` compares with `b · k.2`. -/
def grid (q p : Int) : Nat × Nat :=
  let (a, b) := if 2 ≤ q then (Nat.pow 2 (q - 2).toNat, 1) else (1, Nat.pow 2 (2 - q).toNat)
  if 0 ≤ p then (a, b * Nat.pow 10 p.toNat) else (a * Nat.pow 10 (-p).toNat, b)

/-- The decimal exponent of the leading digit of `m · 2 ^ q`, for `m` above zero. -/
def exponentOf (m : Nat) (q : Int) : Int :=
  let guess := ((m.log2 + q) * 30103).fdiv 100000
  let k := grid q (guess + 1)
  if k.2 ≤ 4 * m * k.1 then guess + 1 else guess

/-- Whether `d` units of the decimal grid are in reach. -/
def Reach.holds (r : Reach) (k : Nat × Nat) (d : Nat) : Bool :=
  if r.closed then r.low * k.1 ≤ d * k.2 && d * k.2 ≤ r.high * k.1
  else r.low * k.1 < d * k.2 && d * k.2 < r.high * k.1

/-- Of the two grid points around the value the one in reach; of two the nearer, of two equally near
ones the even. -/
def Reach.pick? (r : Reach) (k : Nat × Nat) : Option Nat :=
  let v := r.mid * k.1
  let d := v / k.2
  match r.holds k d, r.holds k (d + 1) with
  | true, true =>
    let below := v - d * k.2
    let above := (d + 1) * k.2 - v
    some (if below < above then d else if above < below then d + 1
      else if d % 2 = 0 then d else d + 1)
  | true, false => some d
  | false, true => some (d + 1)
  | false, false => none

/-- The first grid from `digits` significant digits on, at most `fuel` of them, with a point in
reach. -/
def firstHit (m : Nat) (q : Int) (top : Int) : (fuel digits : Nat) → Nat × Int
  | 0, digits => (0, top - digits + 1)
  | fuel + 1, digits =>
    let p := top - digits + 1
    match (reach m q).pick? (grid q p) with
    | some d => (d, p)
    | none => firstHit m q top fuel (digits + 1)

/-- Digits and exponent without the zeros at the end of the digits. -/
def dropZeros : (fuel : Nat) → Nat → Int → Nat × Int
  | 0, d, p => (d, p)
  | fuel + 1, d, p => if d ≠ 0 ∧ d % 10 = 0 then dropZeros fuel (d / 10) (p + 1) else (d, p)

/-- The shortest decimal `d · 10 ^ p` that reads back as `m · 2 ^ q`; seventeen digits always do. -/
def shortest (m : Nat) (q : Int) : Nat × Int :=
  if m = 0 then (0, 0)
  else
    let (d, p) := firstHit m q (exponentOf m q) 17 1
    dropZeros 17 d p

end WidgetContracts.Decimal
