/-
The order in which the members of a set are spelled.

A set keeps its members in a table, at the places that their hashes ask for or at free ones near
them, and is spelled in the order of the table. The hashes of numbers and of empty text are fixed,
so a set of these is always spelled in one order. Other members keep the order in which they were
added.

* `Scalar.hash?`: the hash of a scalar, if it is fixed. It is one for all forms of a number.
* `tableSize`: a table has a power of two of places, more than twice as many as it needs.
* `Table.add`: a member is put at the first free place of a sequence that its hash gives.
* `tableOrder`: the members of a set in the order of its table.
-/
import WidgetContracts.Document.Basic

namespace WidgetContracts

/-! ### Hashes -/

/-- The numbers are hashed modulo this prime. -/
def hashPrime : Nat := Nat.pow 2 61 - 1

/-- A hash with a sign; minus one is not a hash. -/
def signedHash (negative : Bool) (h : Nat) : Int :=
  if negative then (if h = 1 then -2 else -(h : Int)) else h

/-- The hash of `m · 2 ^ q`. Two to the power of 61 is one modulo the prime. -/
def numberHash (m q : Int) : Int :=
  signedHash (decide (m < 0)) (m.natAbs * Nat.pow 2 (q.emod 61).toNat % hashPrime)

/-- The hash of an infinite double. -/
def infinityHash : Nat := 314159

/-- The hash of a scalar, if it is fixed. -/
def Scalar.hash? : Scalar → Option Int
  | text "" => some 0
  | bytes [] => some 0
  | float x =>
    match Decimal.parts x with
    | .finite negative m q => some (numberHash (if negative then -(m : Int) else m) q)
    | .infinite negative => some (signedHash negative infinityHash)
    | .nan => none
  | s => s.number?.map fun (m, q) => numberHash m q

/-! ### Tables -/

/-- The least power of two from `size` on, at most `fuel` doublings up, that is greater than `n`. -/
def powerAbove (n : Nat) : (fuel : Nat) → (size : Nat) → Nat
  | 0, size => size
  | fuel + 1, size => if n < size then size else powerAbove n fuel (2 * size)

/-- The places in the table of a set of `n` members. -/
def tableSize (n : Nat) : Nat := if n < 5 then 8 else powerAbove (2 * n) n 8

/-- Scalars at places of a table, the last one that was added first. -/
abbrev Table := List (Nat × Scalar)

/-- Whether a place is taken. -/
def Table.has (t : Table) (place : Nat) : Bool := t.any (·.1 == place)

/-- Places next to one that was asked for are tried, if so many are left in the table. -/
def neighbours : Nat := 9

/-- A free place near `place`; from `place` and `rest` of the hash follows where to try next. `fuel`
bounds the steps. -/
def Table.freePlace (t : Table) (size : Nat) : (fuel : Nat) → (place rest : Nat) → Nat
  | 0, place, _ => place
  | fuel + 1, place, rest =>
    let tried := List.range (if place + neighbours < size then neighbours + 1 else 1)
    match tried.find? fun k => !t.has (place + k) with
    | some k => place + k
    | none =>
      let rest := rest / 32
      t.freePlace size fuel ((place * 5 + 1 + rest) % size) rest

/-- Adds a member with its hash. -/
def Table.add (size : Nat) (t : Table) (member : Scalar × Int) : Table :=
  let h := (member.2 % Int.pow 2 64).toNat
  (t.freePlace size (size + 16) (h % size) h, member.1) :: t

/-- The members of a set in the order of its table. -/
def tableOrder (members : List Scalar) : List Scalar :=
  match members.mapM fun s => s.hash?.map (s, ·) with
  | some hashed =>
    let t := hashed.foldl (Table.add (tableSize members.length)) []
    (t.mergeSort fun a b => a.1 ≤ b.1).map (·.2)
  | none => members

end WidgetContracts
