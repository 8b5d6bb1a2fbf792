/-
How the reading of scalars ends.

* `readPlain_beyond`: plain scalars end with a result.
* `readQuoted_ends`: quoted scalars may be broken off, or hold a code that no character has.
* `readBlock_ends`: block scalars may have a bad header only.
-/
import WidgetContracts.Markup.Token.Scalars
import WidgetContracts.Proofs.Markup.Outcomes

namespace WidgetContracts.Markup

variable {beyond : Option Fault} {c : Cursor}

/-! ### Plain scalars -/

/-- Line ends inside a plain scalar are passed over without a fault, also in front of the mark of a
document, which ends the scalar. -/
lemma plainBreaks_beyond (fuel : Nat) (c : Cursor) : (plainBreaks fuel c).2.beyond = c.beyond := by
  induction fuel generalizing c with
  | zero => rfl
  | succ fuel ih =>
      rw [plainBreaks]
      dsimp only
      split
      · exact c.skip_beyond _
      · next hbreak =>
          have hc := (Cursor.beyond_of_takeBreak hbreak).trans (c.skip_beyond _)
          split
          · exact hc
          · exact (ih _).trans hc

lemma beyond_of_plainBreaks {fuel : Nat} {c c' : Cursor} {bs : Option (List Char)}
    (h : plainBreaks fuel c = (bs, c')) : c'.beyond = c.beyond := by
  rw [← plainBreaks_beyond fuel c, h]

/-- What parts two runs of a plain scalar, on one line or over several, is passed over without a
fault. -/
lemma plainSpaces_beyond (c : Cursor) : (plainSpaces c).2.2.beyond = c.beyond := by
  rw [plainSpaces]
  dsimp only
  split
  · exact c.span_beyond _
  · next hbreak =>
      have hc := (Cursor.beyond_of_takeBreak hbreak).trans (c.span_beyond _)
      split
      · exact hc
      · split
        · next hbreaks => exact (beyond_of_plainBreaks hbreaks).trans hc
        · next hbreaks => exact (beyond_of_plainBreaks hbreaks).trans hc

/-- A plain scalar takes run after run and then just ends: what does not belong to it is left for
the next token. -/
lemma plainRuns_beyond (flow : Bool) (indent : Int) (fuel : Nat) (spaces : List Char)
    (lineEnded : Bool) (c : Cursor) :
    (plainRuns flow indent fuel spaces lineEnded c).2.2.beyond = c.beyond := by
  induction fuel generalizing spaces lineEnded c with
  | zero => rfl
  | succ fuel ih =>
      rw [plainRuns]
      generalize (if c.peek = some '#' then 0 else plainRun flow c.rest) = n
      dsimp only
      split
      · rfl
      · have hrun : (if (c.advanceBy n).peek = some ':' then (c.advanceBy n).look 2
            else c.advanceBy n).beyond = c.beyond := by
          split
          · exact c.advanceBy_beyond n
          · exact c.advanceBy_beyond n
        generalize (if (c.advanceBy n).peek = some ':' then (c.advanceBy n).look 2
          else c.advanceBy n) = c' at hrun ⊢
        split
        · exact (plainSpaces_beyond c').trans hrun
        · exact (ih _ _ _).trans ((plainSpaces_beyond c').trans hrun)

/-- No plain scalar ends with a fault, and what is wrong behind the text stays. -/
lemma readPlain_beyond (flow : Bool) (indent : Int) (c : Cursor) :
    (readPlain flow indent c).2.2.beyond = c.beyond := by
  rw [readPlain]
  exact plainRuns_beyond flow indent _ _ _ c

/-! ### Quoted scalars -/

/-- Line ends inside quotes: no mark of a document may stand on a new line there. -/
lemma quotedBreaks_ends (fuel : Nat) (h : c.beyond = beyond) :
    EndsIn (IsScanFault beyond) (Stays beyond) (quotedBreaks fuel c) := by
  induction fuel generalizing c with
  | zero => exact h
  | succ fuel ih =>
      rw [quotedBreaks]
      refine .ite (ends_malformed h) ?_
      have hskip := (c.lookForMark.skip_beyond fun ch => ch == ' ' || ch == '\t').trans h
      dsimp only
      split
      · exact hskip
      · next hbreak =>
          exact (ih ((Cursor.beyond_of_takeBreak hbreak).trans hskip)).bind fun _ hr => hr

/-- Blanks inside quotes: the text may not end there. -/
lemma quotedSpaces_ends (h : c.beyond = beyond) :
    EndsIn (IsScanFault beyond) (Stays beyond) (quotedSpaces c) := by
  have hc := (c.span_beyond fun ch => ch == ' ' || ch == '\t').trans h
  rw [quotedSpaces]
  dsimp only
  split
  · exact .ite (ends_malformed hc) hc
  · next hbreak =>
      exact (quotedBreaks_ends _ ((Cursor.beyond_of_takeBreak hbreak).trans hc)).bind fun _ hr => hr

/-- An escape by digits is malformed if it has too few of them, and has a bad value above the last
code point. -/
lemma readCode_ends (width : Nat) (h : c.beyond = beyond) :
    EndsIn (IsScanFault beyond) (Stays beyond) (readCode width c) := by
  rw [readCode]
  split
  · exact .ite (ends_malformed h) (.ite ((c.advanceBy_beyond _).trans h) (ends_badValue h))
  · exact ends_malformed h

/-- A backslash stands in front of an escape that is known, or of a line end. -/
lemma readEscape_ends (h : c.beyond = beyond) :
    EndsIn (IsScanFault beyond) (Stays beyond) (readEscape c) := by
  rw [readEscape]
  split
  · exact ends_malformed h
  · split
    · exact c.advance_beyond.trans h
    · exact readCode_ends _ (c.advance_beyond.trans h)
    · split
      · exact ends_malformed h
      · next hbreak =>
          have hc := (Cursor.beyond_of_takeBreak hbreak).trans h
          exact (quotedBreaks_ends _ hc).bind fun _ hr => hr

/-- The code points in quotes: they are malformed if the text ends before the closing quote, and no
step but an escape has faults of its own. -/
lemma readQuotedUnits_ends (quote : Char) (fuel : Nat) (h : c.beyond = beyond) :
    EndsIn (IsScanFault beyond) (Stays beyond) (readQuotedUnits quote fuel c) := by
  induction fuel generalizing c with
  | zero => exact ends_malformed h
  | succ fuel ih =>
      have hlook : (if quote = '\'' then c.look 2 else c).beyond = beyond := by
        split
        · exact h
        · exact h
      rw [readQuotedUnits]
      split
      · exact ends_malformed h
      · refine .ite (.ite ?_ ?_) (.ite ?_ (.ite ?_ ?_))
        · exact (ih ((Cursor.advanceBy_beyond _ 2).trans hlook)).bind fun _ hr => hr
        · exact (Cursor.advance_beyond _).trans hlook
        · refine (readEscape_ends (c.advance_beyond.trans h)).bind fun _ hr => ?_
          exact (ih hr).bind fun _ hr' => hr'
        · refine (quotedSpaces_ends h).bind fun _ hr => ?_
          exact (ih hr).bind fun _ hr' => hr'
        · exact (ih (c.advance_beyond.trans h)).bind fun _ hr => hr

/-- A quoted scalar is read up to its closing quote as one whole token. -/
lemma readQuoted_ends (quote : Char) (h : c.beyond = beyond) :
    EndsIn (IsScanFault beyond) (GivesToken beyond) (readQuoted quote c) := by
  rw [readQuoted]
  exact (readQuotedUnits_ends quote _ (c.advance_beyond.trans h)).bind fun _ hr => ⟨hr, nofun⟩

/-! ### Block scalars -/

lemma readChomping_beyond (c : Cursor) : (readChomping c).2.beyond = c.beyond := by
  rw [readChomping]
  split
  · exact c.advance_beyond
  · rfl

/-- The digit of a header may be left out, but it is not zero. -/
lemma readIncrement_ends (h : c.beyond = beyond) :
    EndsIn (IsScanFault beyond) (Stays beyond) (readIncrement c) := by
  rw [readIncrement]
  split
  · exact ends_malformed h
  · exact c.advance_beyond.trans h
  · exact h

/-- A header is malformed by its digit, or by what follows on its line. -/
lemma readHeader_ends (h : c.beyond = beyond) :
    EndsIn (IsScanFault beyond) (·.2.2.beyond = beyond) (readHeader c) := by
  rw [readHeader]
  refine (readIncrement_ends ((readChomping_beyond c).trans h)).bind fun r hr => ?_
  have hc : (if (readChomping c).1.isNone && r.1.isSome then readChomping r.2
      else (none, r.2)).2.beyond = beyond := by
    split
    · exact (readChomping_beyond r.2).trans hr
    · exact hr
  exact .ite (ends_malformed_bind hc) hc

/-- The empty lines in front of a block scalar, which tell its indentation, are passed over without
a fault. -/
lemma leadingBreaks_beyond (fuel : Nat) (c : Cursor) :
    (leadingBreaks fuel c).2.2.beyond = c.beyond := by
  induction fuel generalizing c with
  | zero => rfl
  | succ fuel ih =>
      rw [leadingBreaks]
      dsimp only
      split
      · exact c.skip_beyond _
      · next hbreak =>
          exact (ih _).trans ((Cursor.beyond_of_takeBreak hbreak).trans (c.skip_beyond _))

lemma skipIndent_beyond (indent : Nat) (c : Cursor) : (skipIndent indent c).beyond = c.beyond :=
  c.advanceBy_beyond _

lemma blockBreaks_beyond (indent fuel : Nat) (c : Cursor) :
    (blockBreaks indent fuel c).2.beyond = c.beyond := by
  induction fuel generalizing c with
  | zero => rfl
  | succ fuel ih =>
      rw [blockBreaks]
      dsimp only
      split
      · exact skipIndent_beyond indent c
      · next hbreak =>
          have hc := (Cursor.beyond_of_takeBreak hbreak).trans (skipIndent_beyond indent c)
          exact (ih _).trans hc

/-- The lines of a block scalar are read without a fault; it ends at the first line that is indented
less. -/
lemma blockLines_beyond (folded : Bool) (indent fuel : Nat) (breaks : List Char) (c : Cursor) :
    (blockLines folded indent fuel breaks c).2.2.2.beyond = c.beyond := by
  induction fuel generalizing breaks c with
  | zero => rfl
  | succ fuel ih =>
      rw [blockLines]
      dsimp only
      split
      · rw [ih, blockBreaks_beyond, Cursor.takeBreak_beyond, Cursor.span_beyond]
      · rw [blockBreaks_beyond, Cursor.takeBreak_beyond, Cursor.span_beyond]

lemma blockFront_beyond (least : Nat) (increment : Option Nat) (c : Cursor) :
    (blockFront least increment c).2.2.beyond = c.beyond := by
  cases increment with
  | none =>
      rw [blockFront]
      exact leadingBreaks_beyond _ c
  | some n =>
      rw [blockFront]
      exact blockBreaks_beyond _ _ c

lemma blockText_beyond (folded : Bool) (least : Nat) (chomping : Chomping)
    (increment : Option Nat) (c : Cursor) :
    (blockText folded least chomping increment c).2.beyond = c.beyond := by
  rw [blockText]
  dsimp only
  split
  · rw [blockLines_beyond, blockFront_beyond]
  · exact blockFront_beyond least increment c

/-- A block scalar can only have a malformed header: whatever lines follow are its text. -/
lemma readBlock_ends (folded : Bool) (indent : Int) (h : c.beyond = beyond) :
    EndsIn (IsScanFault beyond) (GivesToken beyond) (readBlock folded indent c) := by
  rw [readBlock]
  refine (readHeader_ends (c.advance_beyond.trans h)).bind fun r hr => ?_
  have hc := r.2.2.skipComment_beyond.trans hr
  refine .ite (ends_malformed_bind hc) ⟨?_, nofun⟩
  exact (blockText_beyond _ _ r.1 _ _).trans ((Cursor.takeBreak_beyond _).trans hc)

end WidgetContracts.Markup
