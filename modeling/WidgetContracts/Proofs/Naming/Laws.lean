/-
The laws of names.

* `joinWords_append`, `pascalCase_append`: words are parted wherever separators stand, so that both
  sides may be run together by themselves.
* `pascalCase_pascalCase`: words run together stay as they are.
* `widget_eq_of_contractName_eq`, `contractName_eq_iff`: contracts share a name only if they are of
  one widget and their identifiers run together to the same words.
* `naming_laws`: all of these.
-/
import WidgetContracts.Proofs.Naming.Capitals

namespace WidgetContracts

namespace Naming

/-! ### Words run together -/

/-- Separators only say that a word begins after them. -/
lemma joinWords_separators_append {first : Bool} {w : List Char} (hne : w ≠ [])
    (hw : ∀ c ∈ w, isSeparator c = true) (b : List Char) :
    joinWords first (w ++ b) = joinWords true b := by
  induction w generalizing first with
  | nil => exact absurd rfl hne
  | cons c r ih =>
      rw [List.forall_mem_cons] at hw
      rw [List.cons_append, joinWords, if_pos hw.1]
      cases r with
      | nil => rfl
      | cons d r => exact ih (List.cons_ne_nil d r) hw.2

/-- What stands before separators does not bear on what stands after them. -/
lemma joinWords_append (first : Bool) (a : List Char) {w : List Char} (hne : w ≠ [])
    (hw : ∀ c ∈ w, isSeparator c = true) (b : List Char) :
    joinWords first (a ++ w ++ b) = joinWords first a ++ joinWords true b := by
  induction a generalizing first with
  | nil => exact joinWords_separators_append hne hw b
  | cons c r ih =>
      simp only [List.cons_append, joinWords]
      split
      · exact ih true
      split
      · rw [ih false, List.append_assoc]
      · rw [ih false, List.cons_append]

theorem pascalCase_append (a : List Char) {w : List Char} (hne : w ≠ [])
    (hw : ∀ c ∈ w, isSeparator c = true) (b : List Char) :
    pascalCase (a ++ w ++ b) = pascalCase a ++ pascalCase b :=
  joinWords_append true a hne hw b

/-- Inside a word all characters stay. -/
lemma joinWords_false_of_notMem {cs : List Char} (h : ∀ c ∈ cs, isSeparator c = false) :
    joinWords false cs = cs := by
  induction cs with
  | nil => rfl
  | cons c r ih =>
      rw [List.forall_mem_cons] at h
      simp [joinWords, h.1, ih h.2]

/-- Words run together begin with a character that is its own upper case. -/
lemma upperOf_of_joinWords_eq_cons {cs r : List Char} {d : Char}
    (h : joinWords true cs = d :: r) : Text.upperOf d = [d] := by
  induction cs with
  | nil => cases h
  | cons c cs ih =>
      rw [joinWords] at h
      split at h
      · exact ih h
      · rw [if_pos rfl] at h
        obtain ⟨e, es, hupper⟩ := List.exists_cons_of_ne_nil (Text.upperOf_ne_nil c)
        rw [hupper, List.cons_append, List.cons.injEq] at h
        have hmem : d ∈ Text.upperOf c := by simp [hupper, h.1]
        exact Text.upperOf_of_mem_upperOf hmem

/-- Words run together are one word that begins in upper case, so that they stay as they are. -/
theorem pascalCase_pascalCase (cs : List Char) : pascalCase (pascalCase cs) = pascalCase cs := by
  have hplain : ∀ c ∈ pascalCase cs, isSeparator c = false :=
    fun c => not_isSeparator_of_mem_pascalCase
  cases hcs : pascalCase cs with
  | nil => rfl
  | cons d r =>
      rw [hcs, List.forall_mem_cons] at hplain
      rw [pascalCase, joinWords, if_neg (by simp [hplain.1]), if_pos rfl,
        upperOf_of_joinWords_eq_cons hcs, joinWords_false_of_notMem hplain.2]
      rfl

end Naming

/-! ### Names of contracts -/

lemma contractName_toList (id : String) (w : Widget) :
    (contractName id w).toList = Naming.pascalCase id.toList ++ w.word.toList := by
  rw [contractName, String.toList_append, String.toList_ofList]

/-- Contracts of different widgets have different names, since their words end differently. -/
lemma widget_eq_of_contractName_eq {id id' : String} {w w' : Widget}
    (h : contractName id w = contractName id' w') : w = w' := by
  have hend : ∀ (id : String) (w : Widget),
      (contractName id w).toList.getLast? = w.word.toList.getLast? := by
    intro id w
    rw [contractName_toList, List.getLast?_append]
    cases w <;> rfl
  have hwords : w.word.toList.getLast? = w'.word.toList.getLast? := by
    rw [← hend id w, h, hend id' w']
  revert hwords
  cases w <;> cases w' <;> decide

lemma contractName_eq_iff {id id' : String} {w w' : Widget} :
    contractName id w = contractName id' w' ↔
      w = w' ∧ Naming.pascalCase id.toList = Naming.pascalCase id'.toList := by
  constructor
  · intro h
    obtain rfl := widget_eq_of_contractName_eq h
    have hlist := congrArg String.toList h
    rw [contractName_toList, contractName_toList] at hlist
    exact ⟨rfl, List.append_cancel_right hlist⟩
  · rintro ⟨rfl, h⟩
    rw [contractName, contractName, h]

/-- **The laws of names**: words run together hold no hyphen, no underscore and no blank, and stay
as they are if run together again; separators part a text in two that may be run together by
themselves; and two contracts have one name exactly if they are of one widget and their identifiers
run together to the same words. -/
theorem naming_laws :
    (∀ cs : List Char, ∀ c ∈ Naming.pascalCase cs,
      c ≠ '-' ∧ c ≠ '_' ∧ Text.isBlank c = false) ∧
    (∀ cs : List Char, Naming.pascalCase (Naming.pascalCase cs) = Naming.pascalCase cs) ∧
    (∀ a w b : List Char, w ≠ [] → (∀ c ∈ w, c = '-' ∨ c = '_' ∨ Text.isBlank c = true) →
      Naming.pascalCase (a ++ w ++ b) = Naming.pascalCase a ++ Naming.pascalCase b) ∧
    ∀ (id id' : String) (k l : Widget), contractName id k = contractName id' l ↔
      k = l ∧ Naming.pascalCase id.toList = Naming.pascalCase id'.toList := by
  refine ⟨fun cs c hc => ?_, Naming.pascalCase_pascalCase, fun a w b hne hw => ?_,
    fun id id' k l => contractName_eq_iff⟩
  · have hplain := Naming.not_isSeparator_of_mem_pascalCase hc
    simp only [Naming.isSeparator, Bool.or_eq_false_iff, beq_eq_false_iff_ne] at hplain
    exact ⟨hplain.1.1, hplain.1.2, hplain.2⟩
  · refine Naming.pascalCase_append a hne (fun c hc => ?_) b
    simpa [Naming.isSeparator, or_assoc] using hw c hc

/-- Two words whose first letters become two letters, at either side of mixed separators. -/
theorem naming_laws_sample :
    ([' ', '-', '\u2003', '_'] ≠ [] ∧
      ∀ c ∈ [' ', '-', '\u2003', '_'], c = '-' ∨ c = '_' ∨ Text.isBlank c = true) ∧
    Naming.pascalCase ("ßa".toList ++ [' ', '-', '\u2003', '_'] ++ "ﬁb".toList) =
      "SSaFIb".toList ∧
    'F' ∈ "SSaFIb".toList ∧ 'F' ≠ '-' ∧ 'F' ≠ '_' ∧ Text.isBlank 'F' = false := by
  obtain ⟨hplain, -, hsplit, -⟩ := naming_laws
  have hne : [' ', '-', '\u2003', '_'] ≠ [] := List.cons_ne_nil _ _
  have hw : ∀ c ∈ [' ', '-', '\u2003', '_'], c = '-' ∨ c = '_' ∨ Text.isBlank c = true := by
    -- an instance for all characters would search them all
    rw [List.forall_mem_cons, List.forall_mem_cons, List.forall_mem_cons,
      List.forall_mem_singleton]
    decide
  have hjoined : Naming.pascalCase ("ßa".toList ++ [' ', '-', '\u2003', '_'] ++ "ﬁb".toList) =
      "SSaFIb".toList := by
    rw [hsplit _ _ _ hne hw]
    decide +kernel
  have hmem : 'F' ∈ "SSaFIb".toList := by decide
  exact ⟨⟨hne, hw⟩, hjoined, hmem, hplain _ 'F' (hjoined ▸ hmem)⟩

end WidgetContracts
