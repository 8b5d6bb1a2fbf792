/-
How the reading of words ends: anchors, tags and directives.

* `readAddress_ends`: the addresses that tags write, with characters given by their bytes.
* `readTag_ends`: a tag gives a whole token.
* `readDirective_ends`: a directive; the numbers of a version may be too long.
-/
import WidgetContracts.Markup.Token.Words
import WidgetContracts.Proofs.Markup.Outcomes

namespace WidgetContracts.Markup

variable {beyond : Option Fault} {c : Cursor}

/-- The name of an anchor or alias is read to its end, or it is malformed. -/
lemma readAnchor_ends (h : c.beyond = beyond) :
    EndsIn (IsScanFault beyond) (Stays beyond) (readAnchor c) := by
  have hc := (c.span_beyond isNameCharacter).trans h
  rw [readAnchor]
  exact .ite (ends_malformed hc) hc

lemma readEscapes_ends (fuel : Nat) (h : c.beyond = beyond) :
    EndsIn (IsScanFault beyond) (Stays beyond) (readEscapes fuel c) := by
  induction fuel generalizing c with
  | zero => exact h
  | succ fuel ih =>
      rw [readEscapes]
      split
      · split
        · exact (ih ((c.advanceBy_beyond 3).trans h)).bind fun _ hr => hr
        · exact ends_malformed (c.advance_beyond.trans h)
      · exact ends_malformed (c.advance_beyond.trans h)
      · exact h

/-- The characters of an address stand for themselves or are given by their bytes. -/
lemma readAddressFrom_ends (fuel : Nat) (h : c.beyond = beyond) :
    EndsIn (IsScanFault beyond) (Stays beyond) (readAddressFrom fuel c) := by
  induction fuel generalizing c with
  | zero => exact h
  | succ fuel ih =>
      have hc := (c.span_beyond fun ch => isAddressCharacter ch && ch != '%').trans h
      rw [readAddressFrom]
      refine .ite ((readEscapes_ends _ hc).bind fun r hr => ?_) hc
      dsimp only
      split
      · exact (ih hr).bind fun _ hr => hr
      · exact ends_malformed hr

lemma readAddress_ends (h : c.beyond = beyond) :
    EndsIn (IsScanFault beyond) (Stays beyond) (readAddress c) := by
  rw [readAddress]
  refine (readAddressFrom_ends _ h).bind fun (_, c') hc' => ?_
  exact .ite (ends_malformed_bind hc') hc'

/-- A handle is a name between two marks, or one mark alone. -/
lemma readHandle_ends (h : c.beyond = beyond) :
    EndsIn (IsScanFault beyond) (Stays beyond) (readHandle c) := by
  have hc := (c.advance.span_beyond isNameCharacter).trans (c.advance_beyond.trans h)
  rw [readHandle]
  refine .ite (ends_malformed h) (.ite ?_ (.ite hc (ends_malformed hc)))
  exact (Cursor.advance_beyond _).trans hc

/-- A tag gives a whole token, in each of its forms: an address in angle brackets, a mark alone, and
an address with a handle or without. -/
lemma readTag_ends (h : c.beyond = beyond) :
    EndsIn (IsScanFault beyond) (GivesToken beyond) (readTag c) := by
  -- whatever form the tag has, its word must end behind it
  have hlast : ∀ handle suffix (c' : Cursor), c'.beyond = beyond →
      EndsIn (IsScanFault beyond) (GivesToken beyond)
        (if isSpaceOrEnd c'.peek then .ok (.tag handle suffix, c') else c'.fail .malformed) :=
    fun _ _ _ hc' => .ite ⟨hc', nofun⟩ (ends_malformed hc')
  have hc := (c.look_beyond 2).trans h
  rw [readTag]
  dsimp only
  split
  · refine (readAddress_ends ((Cursor.advanceBy_beyond _ 2).trans hc)).bind fun r hr => ?_
    exact .ite (ends_malformed_bind hr) (hlast _ _ _ (r.2.advance_beyond.trans hr))
  · have hword (n : Nat) := ((c.look 2).look_beyond n).trans hc
    refine .ite (hlast _ _ _ ((Cursor.advance_beyond _).trans hc)) (.ite ?_ ?_)
    · refine (readHandle_ends (hword _)).bind fun r hr => ?_
      exact (readAddress_ends hr).bind fun _ hr' => hlast _ _ _ hr'
    · exact (readAddress_ends ((Cursor.advance_beyond _).trans (hword _))).bind
        fun _ hr => hlast _ _ _ hr

lemma endOfLine_ends (h : c.beyond = beyond) :
    EndsIn (IsScanFault beyond) (·.beyond = beyond) (endOfLine c) := by
  have hc := c.skipComment_beyond.trans h
  rw [endOfLine]
  exact .ite ((Cursor.takeBreak_beyond _).trans hc) (ends_malformed hc)

/-- A number of a version may have too many digits: then its value is bad, and not its form. -/
lemma readVersionNumber_ends (h : c.beyond = beyond) :
    EndsIn (IsScanFault beyond) (Stays beyond) (readVersionNumber c) := by
  have hc := (c.span_beyond Decimal.isDigit).trans h
  rw [readVersionNumber]
  dsimp only
  split
  · exact .ite hc (ends_badValue hc)
  · exact ends_malformed hc

lemma readDirectiveValue_ends (name : String) (h : c.beyond = beyond) :
    EndsIn (IsScanFault beyond) (Stays beyond) (readDirectiveValue name c) := by
  have hc := (c.skip_beyond (· == ' ')).trans h
  rw [readDirectiveValue]
  refine .ite ?_ (.ite ?_ ((c.skip_beyond (!isBreak ·)).trans h))
  · refine (readVersionNumber_ends hc).bind fun (major, c') hc' => ?_
    refine .ite (ends_malformed_bind hc') ?_
    refine (readVersionNumber_ends (c'.advance_beyond.trans hc')).bind fun (_, c'') hc'' => ?_
    exact .ite hc'' (ends_malformed hc'')
  · refine (readHandle_ends hc).bind fun (handle, c') hc' => ?_
    refine .ite (ends_malformed_bind hc') ?_
    refine (readAddress_ends ((c'.skip_beyond _).trans hc')).bind fun (_, c'') hc'' => ?_
    exact .ite hc'' (ends_malformed hc'')

/-- A directive is read with the rest of its line, which must be empty but for a comment. -/
lemma readDirective_ends (h : c.beyond = beyond) :
    EndsIn (IsScanFault beyond) (Stays beyond) (readDirective c) := by
  have hc := (c.advance.span_beyond isNameCharacter).trans (c.advance_beyond.trans h)
  rw [readDirective]
  refine .ite (ends_malformed_bind hc) ?_
  refine (readDirectiveValue_ends _ hc).bind fun (d, c') hc' => ?_
  exact (endOfLine_ends hc').bind fun _ hc'' => hc''

end WidgetContracts.Markup
