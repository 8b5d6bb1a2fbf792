/-
How the steps of reading a text end.

* `EndsIn`: a step ends with a result of some kind, or with a fault of some kind;
  `EndsIn.bind`: one step after another.
* `IsScanFault`: the faults with which tokens end: those of the notation, values that there are none
  of, and what is wrong behind the text.
* `Cursor.ends_fail`: the end of a reading by a fault.
* `Source.ofBytes_beyond`: what is wrong behind the text of a file.
-/
import Mathlib.Tactic.Lemma
import WidgetContracts.Markup.Cursor
import WidgetContracts.Markup.Token.Basic

namespace WidgetContracts.Markup

/-! ### Steps -/

/-- A step ends with a result of one kind, or with a fault of one kind. -/
def EndsIn {ε α : Type} (E : ε → Prop) (P : α → Prop) : Except ε α → Prop
  | .ok a => P a
  | .error fault => E fault

namespace EndsIn

variable {ε α β : Type} {E E' : ε → Prop} {P P' : α → Prop} {Q : β → Prop}

lemma ok {a : α} (h : P a) : EndsIn E P (.ok a) := h

lemma error {fault : ε} (h : E fault) : EndsIn E P (.error fault) := h

/-- One step after another: the second starts from what the first one may give. -/
lemma bind {x : Except ε α} {f : α → Except ε β} (hx : EndsIn E P x)
    (hf : ∀ a, P a → EndsIn E Q (f a)) : EndsIn E Q (x >>= f) := by
  cases x with
  | ok a => exact hf a hx
  | error fault => exact hx

/-- A step that depends on a condition ends as both of its branches do. -/
lemma ite {c : Prop} [Decidable c] {x y : Except ε α} (hx : EndsIn E P x) (hy : EndsIn E P y) :
    EndsIn E P (if c then x else y) := by
  split
  · exact hx
  · exact hy

/-- A step whose faults are wrapped ends with wrapped faults. -/
lemma mapError {ε' : Type} {x : Except ε' α} {f : ε' → ε} (h : ∀ fault, E (f fault)) :
    EndsIn E (fun _ => True) (x.mapError f) := by
  cases x with
  | ok a => trivial
  | error fault => exact h fault

/-- A rule of consequence: ends may be described more loosely. -/
lemma mono {x : Except ε α} (hx : EndsIn E P x) (hE : ∀ fault, E fault → E' fault)
    (hP : ∀ a, P a → P' a) : EndsIn E' P' x := by
  cases x with
  | ok a => exact hP a hx
  | error fault => exact hE fault hx

end EndsIn

/-- The faults with which the tokens of a text end, behind which `beyond` is wrong: those of the
notation, values that there are none of, and what is wrong behind the text. -/
def IsScanFault (beyond : Option Fault) (fault : Fault) : Prop :=
  fault = .malformed ∨ fault = .badValue ∨ beyond = some fault

/-! ### Places -/

namespace Cursor

variable (c : Cursor)

/-- Passing over a character changes where the reading is, and not what is wrong behind the text; so
it is for all movements of the cursor. -/
@[simp]
lemma past_beyond (ch : Char) (rest : List Char) : (c.past ch rest).beyond = c.beyond := by
  rw [past]
  split
  · rfl
  · split <;> rfl

@[simp]
lemma advance_beyond : c.advance.beyond = c.beyond := by
  rw [advance]
  split
  · rfl
  · exact c.past_beyond _ _

@[simp]
lemma advanceBy_beyond (n : Nat) : (c.advanceBy n).beyond = c.beyond := by
  induction n generalizing c with
  | zero => rfl
  | succ n ih => rw [advanceBy, ih, advance_beyond]

/-- The characters that satisfy a predicate are passed over one by one. -/
lemma spanFrom_beyond (p : Char → Bool) (rest : List Char) :
    (spanFrom p rest c).2.beyond = c.beyond := by
  induction rest generalizing c with
  | nil => rfl
  | cons ch r ih =>
      rw [spanFrom]
      split
      · exact (ih _).trans (c.past_beyond ch r)
      · rfl

@[simp]
lemma span_beyond (p : Char → Bool) : (c.span p).2.beyond = c.beyond := c.spanFrom_beyond p c.rest

@[simp]
lemma skip_beyond (p : Char → Bool) : (c.skip p).beyond = c.beyond := c.span_beyond p

@[simp]
lemma skipComment_beyond : c.skipComment.beyond = c.beyond := by
  rw [skipComment]
  split
  · rw [skip_beyond, skip_beyond]
  · exact c.skip_beyond _

/-- A line end is one character or two. -/
@[simp]
lemma takeBreak_beyond : c.takeBreak.2.beyond = c.beyond := by
  rw [takeBreak]
  split
  · split
    · exact c.advance_beyond
    · rfl
  · rfl

lemma beyond_of_takeBreak {c c' : Cursor} {o : Option Char} (h : c.takeBreak = (o, c')) :
    c'.beyond = c.beyond := by
  rw [← c.takeBreak_beyond, h]

/-- Looking ahead changes what has been seen, but not what is wrong behind it. -/
lemma look_beyond (n : Nat) : (c.look n).beyond = c.beyond := rfl

/-- What is wrong behind the text counts before the fault of a place. -/
lemma ends_fail {α : Type} {P : α → Prop} {fault : Fault} (h : IsScanFault c.beyond fault) :
    EndsIn (IsScanFault c.beyond) P (c.fail fault) := by
  rw [fail, pastFault?]
  split
  · cases hbeyond : c.beyond with
    | none =>
        rw [hbeyond] at h
        exact h
    | some other => exact .inr (.inr rfl)
  · exact h

end Cursor

section

variable {α β : Type} {beyond : Option Fault} {c : Cursor}

/-- A place where the notation is broken ends the reading with a fault of the scan. -/
lemma ends_malformed {P : α → Prop} (h : c.beyond = beyond) :
    EndsIn (IsScanFault beyond) P (c.fail .malformed) := by
  rw [← h]
  exact c.ends_fail (.inl rfl)

/-- So does one with a value that there is none of. -/
lemma ends_badValue {P : α → Prop} (h : c.beyond = beyond) :
    EndsIn (IsScanFault beyond) P (c.fail .badValue) := by
  rw [← h]
  exact c.ends_fail (.inr (.inl rfl))

/-- Nothing comes after the end of a reading by a fault. -/
lemma ends_malformed_bind {P : β → Prop} {f : α → Except Fault β} (h : c.beyond = beyond) :
    EndsIn (IsScanFault beyond) P (c.fail .malformed >>= f) :=
  (ends_malformed h).bind fun _ => False.elim

end

/-- A result with a place behind which the same is wrong as before. -/
abbrev Stays {α : Type} (beyond : Option Fault) (r : α × Cursor) : Prop := r.2.beyond = beyond

/-- A whole token, with a place behind which the same is wrong as before. -/
def GivesToken (beyond : Option Fault) (r : Token × Cursor) : Prop :=
  r.2.beyond = beyond ∧ ∀ fault, r.1 ≠ .broken fault

/-! ### What is wrong behind the text -/

/-- Behind characters that may stand in a text there can only be some that may not. -/
lemma Source.ofText_beyond {text : List Char} {fault : Fault}
    (h : (ofText text).beyond = some fault) : fault = .malformed := by
  rw [ofText] at h
  split at h
  · cases h
  · exact (Option.some.inj h).symm

/-- Behind the text of a file the notation may be broken, and the bytes may encode no text. -/
lemma Source.ofBytes_beyond {bytes : List UInt8} {fault : Fault}
    (h : (ofBytes bytes).beyond = some fault) :
    fault = .malformed ∨ fault = .notText ∧ Text.Utf8.decode? bytes = none := by
  rw [ofBytes] at h
  cases hfront : Text.Utf8.front bytes with
  | mk cs rest =>
      rw [hfront] at h
      cases rest with
      | nil => exact .inl (ofText_beyond h)
      | cons b rest =>
          have hdecode : Text.Utf8.decode? bytes = none := by rw [Text.Utf8.decode?, hfront]
          dsimp only at h
          cases hbeyond : (ofText ((Text.unifyLineEnds cs).take
              (handedOn (Intake.portions (bytes.length + 2) (.start bytes))))).beyond with
          | none =>
              rw [hbeyond] at h
              exact .inr ⟨(Option.some.inj h).symm, hdecode⟩
          | some other =>
              rw [hbeyond] at h
              exact .inl ((Option.some.inj h).symm.trans (ofText_beyond hbeyond))

end WidgetContracts.Markup
