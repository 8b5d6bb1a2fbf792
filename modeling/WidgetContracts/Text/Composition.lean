/-
Composed text: a base and the marks after it are one code point where there is one for them, and
marks that have an order among themselves stand in it.

The tables cover the code points that may stand in the names of hosts, and so do the definitions.

* `combiningClass`: the place of a mark in the order; bases have class zero.
* `takenApart`, `ordered`, `composed`: the three steps to the composed form.
* `isComposed`: whether a text is in that form.
-/
import WidgetContracts.Text.Composition.Tables

namespace WidgetContracts.Text

/-- The combining class of a code point; that of a base is zero. -/
def combiningClass (c : Nat) : Nat :=
  match combiningRuns.find? fun r => r.1 ≤ c && c ≤ r.2.1 with
  | some r => r.2.2
  | none => 0

/-- A code point as the code points of which it is composed. At most `fuel` marks are taken off. -/
def takenApart : (fuel : Nat) → Nat → List Nat
  | 0, c => [c]
  | fuel + 1, c =>
    match compositions.find? fun p => p.2.2 == c with
    | some (a, b, _) => takenApart fuel a ++ [b]
    | none => [c]

/-- Puts a code point behind others, of which the nearest stands first; a mark passes over marks of
higher classes. -/
def placeMark (c : Nat) : List Nat → List Nat
  | [] => [c]
  | d :: r =>
    if 0 < combiningClass c ∧ combiningClass c < combiningClass d then d :: placeMark c r
    else c :: d :: r

/-- Code points with all marks in the order of their classes. -/
def ordered (cs : List Nat) : List Nat :=
  (cs.foldl (fun before c => placeMark c before) []).reverse

/-- The code point that two code points are when composed, if there is one. -/
def composition? (a b : Nat) : Option Nat :=
  (compositions.find? fun p => p.1 == a && p.2.1 == b).map (·.2.2)

/-- Composes what follows a base and the marks after it, of which the nearest stands first. A mark
reaches the base past marks of lower classes only. -/
def composedFrom (base : Nat) (marks : List Nat) : List Nat → List Nat
  | [] => base :: marks.reverse
  | c :: r =>
    let isBlocked := marks.head?.any fun m => combiningClass c ≤ combiningClass m
    match if isBlocked then none else composition? base c with
    | some whole => composedFrom whole marks r
    | none =>
      if combiningClass c = 0 then base :: marks.reverse ++ composedFrom c [] r
      else composedFrom base (c :: marks) r

/-- The code points of a text as few as may be. -/
def composed (cs : List Nat) : List Nat :=
  match ordered (cs.flatMap (takenApart 4)) with
  | [] => []
  | c :: r => composedFrom c [] r

/-- Whether code points are in the composed form. -/
def isComposed (cs : List Nat) : Bool := composed cs == cs

end WidgetContracts.Text
