/-
Upper case is final.

* `CaseRun.skips`: whether code points between two bounds are not on a run.
* `IsUpper`: a code point has no other upper case.
* `upperRuns_skip`, `upperExpansions_skip`: upper case leads to such code points only.
* `upperOf_of_mem_upperOf`: a character in the upper case of another is its own upper case.
-/
import WidgetContracts.Proofs.Naming.Signs

namespace WidgetContracts

namespace Text

namespace CaseRun

/-- Whether the code points from one to another, all of them or every second one, are not on a run:
they lie apart from it, or between its code points. -/
def skips (q : CaseRun) (first last : Nat) (everySecond : Bool) : Bool :=
  Nat.blt last q.first || Nat.blt q.last first ||
    (q.step == 2 && everySecond && (first + q.first) % 2 == 1)

lemma has_iff {r : CaseRun} {c : Nat} :
    r.has c = true ↔ r.first ≤ c ∧ c ≤ r.last ∧ (c - r.first) % r.step = 0 := by
  simp [has, and_assoc]

lemma has_of_skips {q : CaseRun} {first last n : Nat} {everySecond : Bool}
    (h : q.skips first last everySecond = true) (hfirst : first ≤ n) (hlast : n ≤ last)
    (hsecond : everySecond = true → (n - first) % 2 = 0) : q.has n = false := by
  rw [← Bool.not_eq_true, has_iff]
  rintro ⟨hlo, hhi, hstep⟩
  simp only [skips, Bool.or_eq_true, Bool.and_eq_true, beq_iff_eq, Nat.blt_eq] at h
  rcases h with (happart | happart) | ⟨⟨htwo, hevery⟩, hodd⟩
  · omega
  · omega
  · have heven := hsecond hevery
    rw [htwo] at hstep
    omega

/-- A code point on a run that does not lead below zero is moved as an integer. -/
lemma natCast_move {r : CaseRun} {c : Nat} (hpos : 0 ≤ (r.first : Int) + r.shift)
    (hc : r.first ≤ c) : (r.move c : Int) = c + r.shift := by
  rw [move, Int.ofNat_eq_natCast]
  omega

end CaseRun

/-- A code point has no other upper case. -/
structure IsUpper (n : Nat) : Prop where
  runs : ∀ q ∈ upperRuns, q.has n = false
  expansions : ∀ p ∈ upperExpansions, p.1 ≠ n

/-- The run of the small ASCII letters. -/
def letterRun : CaseRun := ⟨0x61, 0x7a, 1, -32⟩

lemma letterRun_mem : letterRun ∈ upperRuns := List.mem_cons_self

/-! ### The tables -/

lemma upperRuns_skip : (upperRuns.all fun r => upperRuns.all fun q =>
    q.skips (r.move r.first) (r.move r.last) (r.step == 2 || r.first == r.last)) = true := by
  decide +kernel

lemma upperRuns_avoid_expansions : (upperRuns.all fun r => upperExpansions.all fun p =>
    Nat.blt (r.move r.last) p.1 || Nat.blt p.1 (r.move r.first)) = true := by
  decide +kernel

lemma upperExpansions_skip : (upperExpansions.all fun p => p.2.all fun n =>
    upperRuns.all (·.skips n n true)) = true := by
  decide +kernel

lemma upperExpansions_avoid_expansions : (upperExpansions.all fun p => p.2.all fun n =>
    upperExpansions.all fun p' => Nat.blt p'.1 n || Nat.blt n p'.1) = true := by
  decide +kernel

lemma upperExpansions_ne_nil : ∀ p ∈ upperExpansions, p.2 ≠ [] := by decide +kernel

lemma upperRuns_pos {r : CaseRun} (hr : r ∈ upperRuns) : 0 ≤ (r.first : Int) + r.shift := by
  have hreach := (Naming.upperRuns_reach r hr).1
  rw [Naming.firstLetter] at hreach
  omega

/-- A run leads to code points that have no other upper case. -/
lemma isUpper_move {r : CaseRun} {c : Nat} (hr : r ∈ upperRuns) (hc : r.has c = true) :
    IsUpper (r.move c) := by
  obtain ⟨hfirst, hlast, hstep⟩ := CaseRun.has_iff.mp hc
  have hpos := upperRuns_pos hr
  have hmove := CaseRun.natCast_move hpos hfirst
  have hmoveFirst := CaseRun.natCast_move hpos (Nat.le_refl r.first)
  have hmoveLast := CaseRun.natCast_move hpos (Nat.le_trans hfirst hlast)
  refine ⟨fun q hq => ?_, fun p hp heq => ?_⟩
  · have hskip := List.all_eq_true.mp (List.all_eq_true.mp upperRuns_skip r hr) q hq
    refine CaseRun.has_of_skips hskip (by omega) (by omega) fun hsecond => ?_
    simp only [Bool.or_eq_true, beq_iff_eq] at hsecond
    rcases hsecond with htwo | hone
    · rw [htwo] at hstep
      omega
    · omega
  · have havoid := List.all_eq_true.mp (List.all_eq_true.mp upperRuns_avoid_expansions r hr) p hp
    simp only [Bool.or_eq_true, Nat.blt_eq] at havoid
    omega

/-- An expansion consists of code points that have no other upper case. -/
lemma isUpper_of_mem_expansion {p : Nat × List Nat} {n : Nat} (hp : p ∈ upperExpansions)
    (hn : n ∈ p.2) : IsUpper n := by
  refine ⟨fun q hq => ?_, fun p' hp' heq => ?_⟩
  · have hskip := List.all_eq_true.mp
      (List.all_eq_true.mp (List.all_eq_true.mp upperExpansions_skip p hp) n hn) q hq
    exact CaseRun.has_of_skips hskip (Nat.le_refl n) (Nat.le_refl n) (by simp)
  · have havoid := List.all_eq_true.mp (List.all_eq_true.mp
      (List.all_eq_true.mp upperExpansions_avoid_expansions p hp) n hn) p' hp'
    simp only [Bool.or_eq_true, Nat.blt_eq] at havoid
    omega

/-- A code point to which a run leads is that of a character. -/
lemma toNat_ofNat_move {r : CaseRun} {c : Nat} (hr : r ∈ upperRuns) (hc : r.has c = true) :
    (Char.ofNat (r.move c)).toNat = r.move c := by
  obtain ⟨hfirst, hlast, -⟩ := CaseRun.has_iff.mp hc
  have hmove := CaseRun.natCast_move (upperRuns_pos hr) hfirst
  have hreach := (Naming.upperRuns_reach r hr).2
  exact Naming.toNat_ofNat_of_lt (by omega)

/-! ### Characters -/

/-- A character that has no other upper case stays. -/
lemma upperOf_of_isUpper {c : Char} (h : IsUpper c.toNat) : upperOf c = [c] := by
  have hsmall : ¬('a' ≤ c ∧ c ≤ 'z') := by
    rintro ⟨ha, hz⟩
    have hletter : letterRun.has c.toNat = true := CaseRun.has_iff.mpr ⟨ha, hz, Nat.mod_one _⟩
    rw [h.runs letterRun letterRun_mem] at hletter
    cases hletter
  rw [upperOf, if_neg hsmall]
  split
  · rfl
  · have hlookup : upperExpansions.lookup c.toNat = none := by
      rw [List.lookup_eq_none_iff]
      intro p hp
      simpa using (h.expansions p hp).symm
    have hfind : upperRuns.find? (·.has c.toNat) = none := by
      rw [List.find?_eq_none]
      intro q hq
      simp [h.runs q hq]
    rw [otherCase, hlookup, hfind]

/-- A character stays in upper case, or becomes characters that have no other upper case. -/
lemma upperOf_cases (c : Char) :
    upperOf c = [c] ∨ upperOf c ≠ [] ∧ ∀ d ∈ upperOf c, IsUpper d.toNat := by
  have hmoved : ∀ r ∈ upperRuns, r.has c.toNat = true →
      IsUpper (Char.ofNat (r.move c.toNat)).toNat := by
    intro r hr hc
    rw [toNat_ofNat_move hr hc]
    exact isUpper_move hr hc
  rw [upperOf]
  split
  · next hsmall =>
    have hc : letterRun.has c.toNat = true :=
      CaseRun.has_iff.mpr ⟨hsmall.1, hsmall.2, Nat.mod_one _⟩
    have hmove : letterRun.move c.toNat = c.toNat - 32 := Int.toNat_sub _ 32
    have hupper := hmoved letterRun letterRun_mem hc
    rw [hmove] at hupper
    exact .inr ⟨List.cons_ne_nil _ _, List.forall_mem_singleton.mpr hupper⟩
  split
  · exact .inl rfl
  rw [otherCase]
  split
  · next cs hcs =>
    have hmem := Naming.mem_of_lookup hcs
    refine .inr ⟨mt List.map_eq_nil_iff.mp (upperExpansions_ne_nil _ hmem), ?_⟩
    rw [List.forall_mem_map]
    intro n hn
    rw [Naming.toNat_ofNat_of_lt (.inl (Naming.upperExpansions_reach _ hmem n hn).2)]
    exact isUpper_of_mem_expansion hmem hn
  split
  · next r hr =>
    have hhas := List.find?_some (p := fun q : CaseRun => q.has c.toNat) hr
    have hupper := hmoved r (List.mem_of_find?_eq_some hr) hhas
    exact .inr ⟨List.cons_ne_nil _ _, List.forall_mem_singleton.mpr hupper⟩
  · exact .inl rfl

lemma upperOf_ne_nil (c : Char) : upperOf c ≠ [] := by
  rcases upperOf_cases c with h | ⟨h, -⟩
  · rw [h]
    exact List.cons_ne_nil _ _
  · exact h

/-- **Upper case is final**: a character in the upper case of another is its own upper case. -/
theorem upperOf_of_mem_upperOf {c d : Char} (hd : d ∈ upperOf c) : upperOf d = [d] := by
  rcases upperOf_cases c with h | ⟨-, h⟩
  · rw [h, List.mem_singleton] at hd
    rw [hd, h]
  · exact upperOf_of_isUpper (h d hd)

end Text

end WidgetContracts
