/-
Upper and lower case of whole texts, in all scripts. One character may become several; only the
lower case of the Greek capital sigma depends on its neighbours.

* `upperOf`: the upper case of one character.
* `upper`, `lower`: of a text.
* `isFinalSigma`: a sigma ends a word when a letter with case stands before it and none after it,
  marks on either side being passed over.
-/
import WidgetContracts.Text.Casing.Tables

namespace WidgetContracts.Text

/-- The other case of a character, by a table of runs and one of expansions. -/
def otherCase (runs : List CaseRun) (expansions : List (Nat × List Nat)) (c : Char) : List Char :=
  match expansions.lookup c.toNat with
  | some cs => cs.map Char.ofNat
  | none =>
    match runs.find? (·.has c.toNat) with
    | some r => [Char.ofNat (r.move c.toNat)]
    | none => [c]

/-- The upper case of a character. -/
def upperOf (c : Char) : List Char :=
  if 'a' ≤ c ∧ c ≤ 'z' then [Char.ofNat (c.toNat - 32)]
  else if c.toNat < 0x80 then [c]
  else otherCase upperRuns upperExpansions c

/-- The lower case of a character, its neighbours set aside. -/
def lowerOf (c : Char) : List Char :=
  if 'A' ≤ c ∧ c ≤ 'Z' then [Char.ofNat (c.toNat + 32)]
  else if c.toNat < 0x80 then [c]
  else otherCase lowerRuns lowerExpansions c

/-- Whether the nearest character that is not passed over is a letter with case. -/
def meetsCased (cs : List Char) : Bool :=
  match cs.dropWhile fun c => ignorableBounds.has c.toNat with
  | [] => false
  | c :: _ => casedBounds.has c.toNat

/-- Whether a sigma after the characters `before` (nearest first) and before `after` ends a word. -/
def isFinalSigma (before after : List Char) : Bool :=
  meetsCased before && !meetsCased after

/-- The upper case of a text. -/
def upper (cs : List Char) : List Char := cs.flatMap upperOf

/-- The lower case of the text that follows the characters `before` (nearest first). -/
def lowerAfter (before : List Char) : List Char → List Char
  | [] => []
  | c :: r =>
    (if c = 'Σ' then [if isFinalSigma before r then 'ς' else 'σ'] else lowerOf c)
      ++ lowerAfter (c :: before) r

/-- The lower case of a text. -/
def lower (cs : List Char) : List Char := lowerAfter [] cs

end WidgetContracts.Text
