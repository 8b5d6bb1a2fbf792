/-
Names run together hold no separators.

* `separatorRanges`, `isSeparator_iff`: the separators of words as ranges of code points.
* `InUpper`: the ways in which a character can be in the upper case of another.
* `not_isSeparator_of_mem_upperOf`: the upper case of a character of a word separates no words.
* `not_isSeparator_of_mem_pascalCase`: words run together hold no hyphen, underscore or blank.
* `lf_notMem_contractName`: the name of a contract is one line.
-/
import Mathlib.Tactic.Lemma
import WidgetContracts.Naming

namespace WidgetContracts

namespace Naming

open Text

/-! ### Separators as ranges -/

/-- The code points of hyphen, underscore and blanks, as ranges. -/
def separatorRanges : List (Nat × Nat) :=
  [(9, 13), (28, 32), (0x2d, 0x2d), (0x5f, 0x5f), (0x85, 0x85), (0xa0, 0xa0), (0x1680, 0x1680),
    (0x2000, 0x200a), (0x2028, 0x2029), (0x202f, 0x202f), (0x205f, 0x205f), (0x3000, 0x3000)]

/-- A character separates words exactly when its code point lies in one of the ranges. -/
lemma isSeparator_iff {c : Char} :
    isSeparator c = true ↔ ∃ q ∈ separatorRanges, q.1 ≤ c.toNat ∧ c.toNat ≤ q.2 := by
  have hhyphen : '-'.toNat = 0x2d := rfl
  have hunderscore : '_'.toNat = 0x5f := rfl
  simp only [isSeparator, isBlank, Bool.or_eq_true, Bool.and_eq_true, beq_iff_eq,
    decide_eq_true_eq, separatorRanges, List.mem_cons, List.not_mem_nil, or_false,
    exists_eq_or_imp, exists_eq_left, ← Char.toNat_inj, hhyphen, hunderscore]
  omega

/-- A code point that is none at all becomes zero. -/
lemma toNat_ofNat_eq_or (n : Nat) : (Char.ofNat n).toNat = n ∨ (Char.ofNat n).toNat = 0 := by
  by_cases h : n.isValidChar
  · left
    rw [Char.ofNat, dif_pos h]
    rfl
  · right
    rw [Char.ofNat, dif_neg h]
    rfl

lemma separatorRanges_pos : ∀ q ∈ separatorRanges, 0 < q.1 := by decide

/-- A separator keeps its code point. -/
lemma range_of_isSeparator_ofNat {n : Nat} (h : isSeparator (Char.ofNat n) = true) :
    ∃ q ∈ separatorRanges, q.1 ≤ n ∧ n ≤ q.2 := by
  obtain ⟨q, hq, hlo, hhi⟩ := isSeparator_iff.mp h
  have hpos := separatorRanges_pos q hq
  rcases toNat_ofNat_eq_or n with hn | hn
  · exact ⟨q, hq, hn ▸ hlo, hn ▸ hhi⟩
  · omega

/-! ### Upper case -/

/-- No run of the upper case ends among the separators. -/
lemma upperRuns_avoid : ∀ r ∈ upperRuns, ∀ q ∈ separatorRanges,
    (r.last : Int) + r.shift < q.1 ∨ (q.2 : Int) < r.first + r.shift := by decide +kernel

/-- No expansion of the upper case holds a separator. -/
lemma upperExpansions_avoid : ∀ p ∈ upperExpansions, ∀ n ∈ p.2, ∀ q ∈ separatorRanges,
    n < q.1 ∨ q.2 < n := by decide +kernel

lemma mem_of_lookup {α β : Type} [BEq α] [LawfulBEq α] {a : α} {b : β} {ps : List (α × β)}
    (h : ps.lookup a = some b) : (a, b) ∈ ps := by
  obtain ⟨front, back, rfl, -⟩ := List.lookup_eq_some_iff.mp h
  exact List.mem_append_right front List.mem_cons_self

/-- The ways in which a character can be in the upper case of another. -/
inductive InUpper (c : Char) : Char → Prop
  | self : InUpper c c
  | letter (lower : 0x61 ≤ c.toNat) (upper : c.toNat ≤ 0x7a) :
      InUpper c (Char.ofNat (c.toNat - 32))
  | expanded {cs : List Nat} {n : Nat} (expansion : (c.toNat, cs) ∈ upperExpansions)
      (mem : n ∈ cs) : InUpper c (Char.ofNat n)
  | moved {r : CaseRun} (run : r ∈ upperRuns) (first : r.first ≤ c.toNat)
      (last : c.toNat ≤ r.last) : InUpper c (Char.ofNat (r.move c.toNat))

lemma inUpper_of_mem {c d : Char} (hd : d ∈ upperOf c) : InUpper c d := by
  rw [upperOf] at hd
  split at hd
  · next hsmall =>
    obtain rfl := List.mem_singleton.mp hd
    exact .letter hsmall.1 hsmall.2
  split at hd
  · obtain rfl := List.mem_singleton.mp hd
    exact .self
  rw [otherCase] at hd
  split at hd
  · next cs hcs =>
    obtain ⟨n, hn, rfl⟩ := List.mem_map.mp hd
    exact .expanded (mem_of_lookup hcs) hn
  split at hd
  · next r hr =>
    obtain rfl := List.mem_singleton.mp hd
    have hhas := List.find?_some hr
    simp only [CaseRun.has, Bool.and_eq_true, decide_eq_true_eq] at hhas
    exact .moved (List.mem_of_find?_eq_some hr) hhas.1.1 hhas.1.2
  · obtain rfl := List.mem_singleton.mp hd
    exact .self

/-- The upper case of a character that separates no words separates none. -/
lemma not_isSeparator_of_mem_upperOf {c d : Char} (hc : isSeparator c = false)
    (hd : d ∈ upperOf c) : isSeparator d = false := by
  rw [← Bool.not_eq_true]
  intro hsep
  cases inUpper_of_mem hd with
  | self =>
      rw [hc] at hsep
      cases hsep
  | letter lower upper =>
      obtain ⟨q, hq, hlo, hhi⟩ := range_of_isSeparator_ofNat hsep
      simp only [separatorRanges, List.mem_cons, List.not_mem_nil, or_false] at hq
      rcases hq with rfl | rfl | rfl | rfl | rfl | rfl | rfl | rfl | rfl | rfl | rfl | rfl <;>
        simp only at hlo hhi <;> omega
  | expanded expansion mem =>
      obtain ⟨q, hq, hlo, hhi⟩ := range_of_isSeparator_ofNat hsep
      have havoid := upperExpansions_avoid _ expansion _ mem q hq
      omega
  | moved run first last =>
      obtain ⟨q, hq, hlo, hhi⟩ := range_of_isSeparator_ofNat hsep
      have hpos := separatorRanges_pos q hq
      have havoid := upperRuns_avoid _ run q hq
      simp only [CaseRun.move, Int.ofNat_eq_natCast] at hlo hhi
      omega

/-! ### Words run together -/

lemma not_isSeparator_of_mem_joinWords {first : Bool} {cs : List Char} {d : Char}
    (hd : d ∈ joinWords first cs) : isSeparator d = false := by
  induction cs generalizing first with
  | nil => cases hd
  | cons c r ih =>
      rw [joinWords] at hd
      by_cases hc : isSeparator c = true
      · rw [if_pos hc] at hd
        exact ih hd
      rw [if_neg hc] at hd
      rw [Bool.not_eq_true] at hc
      split at hd
      · rcases List.mem_append.mp hd with hd | hd
        · exact not_isSeparator_of_mem_upperOf hc hd
        · exact ih hd
      · rcases List.mem_cons.mp hd with rfl | hd
        · exact hc
        · exact ih hd

/-- Words run together hold no hyphen, no underscore and no blank. -/
theorem not_isSeparator_of_mem_pascalCase {cs : List Char} {d : Char} (hd : d ∈ pascalCase cs) :
    isSeparator d = false :=
  not_isSeparator_of_mem_joinWords hd

end Naming

/-- The name of a contract is one line. -/
lemma lf_notMem_contractName (collectionId : String) (w : Widget) :
    '\n' ∉ (contractName collectionId w).toList := by
  rw [contractName, String.toList_append, String.toList_ofList, List.mem_append, not_or]
  constructor
  · intro hmem
    have h := Naming.not_isSeparator_of_mem_pascalCase hmem
    revert h
    decide
  · cases w <;> decide

end WidgetContracts
