/-
Documents that are read from JSON texts, and that they can be spelled.

* `Scalar.IsJson`, `Value.IsJson`: what a JSON text can hold: collections that stand in their places
  and whole numbers that are not too long.
* `Value.IsJson.spellingFault?_eq_none`: it can be spelled.
* `Value.JsonWithin`: the same for collections that stand in a table and nest no deeper than a
  bound; `Value.JsonWithin.spellingFault?_eq_none`: it can be spelled within the bound for spelling.
* `Json.isJson_of_parse`: and what is read from a text is of this kind.
-/
import Mathlib.Algebra.Ring.Nat
import Mathlib.Data.List.TakeWhile
import WidgetContracts.Document.Json
import WidgetContracts.Document.Spelling
import WidgetContracts.Proofs.Reading.Outcomes

namespace WidgetContracts

/-! ### What JSON texts hold -/

/-- A scalar that a JSON text can hold. -/
inductive Scalar.IsJson : Scalar → Prop where
  | null : Scalar.null.IsJson
  | bool (b : Bool) : (Scalar.bool b).IsJson
  | int {n : Int} (h : n.natAbs < Nat.pow 10 Decimal.maxDigits) : (Scalar.int n).IsJson
  | float (x : Float) : (Scalar.float x).IsJson
  | text (s : String) : (Scalar.text s).IsJson
  | loose (units : List Nat) : (Scalar.loose units).IsJson

/-- A document that a JSON text can hold. -/
inductive Value.IsJson : Value → Prop where
  | scalar {s : Scalar} (h : s.IsJson) : (Value.scalar s).IsJson
  | list {items : List Value} (h : ∀ v ∈ items, v.IsJson) : (Value.list items).IsJson
  | map {entries : List (Scalar × Value)} (hkeys : ∀ p ∈ entries, p.1.IsJson)
      (h : ∀ p ∈ entries, p.2.IsJson) : (Value.map entries).IsJson

lemma Value.IsJson.object {entries : List (String × Value)} (h : ∀ p ∈ entries, p.2.IsJson) :
    (Value.object entries).IsJson :=
  .map (List.forall_mem_map.mpr fun p _ => .text p.1) (List.forall_mem_map.mpr h)

/-! ### Spelling -/

/-- Only a whole number may be too long to be spelled, and none of a JSON text is. -/
lemma Scalar.IsJson.spellingFault?_eq_none {s : Scalar} (h : s.IsJson) :
    s.spellingFault? = none := by
  cases h with
  | int hn => rw [spellingFault?, if_pos hn]
  | null | bool | float | text | loose => rfl

namespace Value

variable {look : Nat → Option SpellingFault}

/-- Members are spelled one by one. -/
lemma faultOfItems_eq_none {items : List Value} (h : ∀ v ∈ items, v.faultBy look = none) :
    faultOfItems look items = none := by
  induction items with
  | nil => rw [faultOfItems]
  | cons v r ih =>
      rw [List.forall_mem_cons] at h
      rw [faultOfItems, h.1, ih h.2, Option.none_or]

/-- Entries are spelled one by one, each key in front of its value. -/
lemma faultOfEntries_eq_none {entries : List (Scalar × Value)}
    (hkeys : ∀ p ∈ entries, p.1.spellingFault? = none)
    (h : ∀ p ∈ entries, p.2.faultBy look = none) : faultOfEntries look entries = none := by
  induction entries with
  | nil => rw [faultOfEntries]
  | cons p r ih =>
      rw [List.forall_mem_cons] at hkeys h
      rw [faultOfEntries, hkeys.1, h.1, ih hkeys.2 h.2, Option.none_or, Option.none_or]

/-- Whatever is wrong with collections that stand in a table, a document without such ones is
spelled. -/
lemma IsJson.faultBy_eq_none {v : Value} (h : v.IsJson) : v.faultBy look = none := by
  induction h with
  | scalar h =>
      rw [faultBy]
      exact h.spellingFault?_eq_none
  | list _ ih =>
      rw [faultBy]
      exact faultOfItems_eq_none ih
  | map hkeys _ ih =>
      rw [faultBy]
      exact faultOfEntries_eq_none (fun p hp => (hkeys p hp).spellingFault?_eq_none) ih

/-- What a JSON text can hold can be spelled. -/
lemma IsJson.spellingFault?_eq_none {v : Value} (h : v.IsJson) (t : Shared) :
    v.spellingFault? t = none := h.faultBy_eq_none

/-- A document that a JSON text can hold, whose collections may stand in a table and nest at most
`n` deep. -/
inductive JsonWithin (t : Shared) : Nat → Value → Prop where
  | scalar {n : Nat} {s : Scalar} (h : s.IsJson) : JsonWithin t n (.scalar s)
  | list {n : Nat} {v : Value} {items : List Value} (actual_eq : v.actual t = .list items)
      (h : ∀ w ∈ items, JsonWithin t n w) : JsonWithin t (n + 1) v
  | map {n : Nat} {v : Value} {entries : List (Scalar × Value)}
      (actual_eq : v.actual t = .map entries) (hkeys : ∀ p ∈ entries, p.1.IsJson)
      (h : ∀ p ∈ entries, JsonWithin t n p.2) : JsonWithin t (n + 1) v

/-- A collection has a spelling where its parts have one, in the room that is left inside it. -/
lemma faultBy_faultOfShared_eq_none {t : Shared} {room : Nat} {v : Value}
    (h : ∀ room' around, room ≤ room' →
      (v.actual t).faultBy (faultOfShared t room' around) = none) (around : List Nat) :
    v.faultBy (faultOfShared t (room + 1) around) = none := by
  cases v with
  | shared i =>
      rw [faultBy, faultOfShared]
      split
      · rfl
      · exact h room _ (Nat.le_refl _)
  | scalar | list | map | set | pair => exact h _ around (Nat.le_succ room)

lemma JsonWithin.faultBy_eq_none {t : Shared} {n : Nat} {v : Value} (h : JsonWithin t n v) :
    ∀ room around, n ≤ room → v.faultBy (faultOfShared t room around) = none := by
  induction h with
  | scalar h =>
      intro room around _
      rw [faultBy]
      exact h.spellingFault?_eq_none
  | @list n v items hactual _ ih =>
      intro room around hroom
      obtain ⟨room, rfl⟩ : ∃ k, room = k + 1 := ⟨room - 1, by omega⟩
      refine faultBy_faultOfShared_eq_none (fun room' around' hroom' => ?_) around
      rw [hactual, faultBy]
      exact faultOfItems_eq_none fun w hw => ih w hw room' around' (by omega)
  | @map n v entries hactual hkeys _ ih =>
      intro room around hroom
      obtain ⟨room, rfl⟩ : ∃ k, room = k + 1 := ⟨room - 1, by omega⟩
      refine faultBy_faultOfShared_eq_none (fun room' around' hroom' => ?_) around
      rw [hactual, faultBy]
      exact faultOfEntries_eq_none (fun p hp => (hkeys p hp).spellingFault?_eq_none)
        fun p hp => ih p hp room' around' (by omega)

/-- What a JSON text can hold can be spelled, also with its collections in a table, if they nest no
deeper than spelling goes. -/
lemma JsonWithin.spellingFault?_eq_none {t : Shared} {v : Value}
    (h : JsonWithin t maxSpelledDepth v) : v.spellingFault? t = none :=
  h.faultBy_eq_none _ _ (Nat.le_refl _)

end Value

/-! ### Whole numbers -/

namespace Decimal

lemma digit_le {c : Char} (h : isDigit c = true) : c.toNat - '0'.toNat ≤ 9 := by
  rw [isDigit, Bool.and_eq_true, decide_eq_true_eq, decide_eq_true_eq] at h
  have hle : c.toNat ≤ '9'.toNat := h.2
  have hnine : '9'.toNat = 57 := rfl
  have hzero : '0'.toNat = 48 := rfl
  omega

/-- Each digit multiplies what can be written by ten. -/
lemma naturalFrom_lt {ds : List Char} (h : ∀ c ∈ ds, isDigit c = true) (acc : Nat) :
    naturalFrom acc ds < (acc + 1) * 10 ^ ds.length := by
  induction ds generalizing acc with
  | nil =>
      rw [List.length_nil, Nat.pow_zero, Nat.mul_one]
      exact Nat.lt_succ_self acc
  | cons c r ih =>
      rw [List.forall_mem_cons] at h
      have hdigit := digit_le h.1
      calc naturalFrom acc (c :: r)
          < (10 * acc + (c.toNat - '0'.toNat) + 1) * 10 ^ r.length := ih h.2 _
        _ ≤ (acc + 1) * 10 * 10 ^ r.length := Nat.mul_le_mul_right _ (by omega)
        _ = (acc + 1) * 10 ^ (c :: r).length := by
          rw [List.length_cons, Nat.pow_succ', Nat.mul_assoc]

/-- What few digits write is small. -/
lemma naturalFrom_lt_of_length_le {ds : List Char} (h : ∀ c ∈ ds, isDigit c = true) {n : Nat}
    (hlength : ds.length ≤ n) : naturalFrom 0 ds < Nat.pow 10 n :=
  calc naturalFrom 0 ds
      < (0 + 1) * 10 ^ ds.length := naturalFrom_lt h 0
    _ = 10 ^ ds.length := Nat.one_mul _
    _ ≤ Nat.pow 10 n := Nat.pow_le_pow_right (by decide) hlength

lemma natAbs_signed (negative : Bool) (n : Nat) : (signed negative n).natAbs = n := by
  cases negative with
  | false => rfl
  | true => exact Int.natAbs_neg n

end Decimal

/-! ### Reading -/

namespace Json

/-- A whole number is made of digits alone. -/
lemma isDigit_of_mem_wholeDigits {cs : List Char} :
    ∀ c ∈ wholeDigits cs, Decimal.isDigit c = true := by
  unfold wholeDigits
  split
  · exact List.forall_mem_singleton.mpr rfl
  · exact fun c hc => List.mem_takeWhile_imp hc

/-- A whole number is refused, unless it has few digits. -/
lemma isJson_of_readNumber {cs : List Char} {s : Scalar} {used : Nat}
    (h : readNumber? cs = .ok (some (s, used))) : s.IsJson := by
  unfold readNumber? at h
  extract_lets signs digits whole fraction exponent used' at h
  split_ifs at h with hnone hwhole hlong
  · cases Except.ok.inj h
  · have hs := (Prod.mk.inj (Option.some.inj (Except.ok.inj h))).1
    rw [← hs]
    refine .int ?_
    rw [Decimal.natAbs_signed]
    exact Decimal.naturalFrom_lt_of_length_le isDigit_of_mem_wholeDigits (Nat.le_of_not_lt hlong)
  · obtain ⟨l, -, hl⟩ := Option.map_eq_some_iff.mp (Except.ok.inj h)
    rw [← (Prod.mk.inj hl).1]
    exact .float _

lemma isJson_of_mem_words : ∀ w ∈ words, w.2.IsJson := by
  simp only [words, List.forall_mem_cons]
  exact ⟨.null, .bool _, .bool _, .float _, .float _, .float _, List.forall_mem_nil _⟩

lemma isJson_ofUnits (us : List Nat) : (Scalar.ofUnits us).IsJson := by
  rw [Scalar.ofUnits]
  split
  · exact .text _
  · exact .loose _

lemma isJson_of_readText {fuel : Nat} {us rest : List Nat} {s : Scalar}
    (h : readText fuel us = .ok (s, rest)) : s.IsJson := by
  rw [readText, bind_eq_ok_iff] at h
  obtain ⟨⟨text, _⟩, -, h⟩ := h
  rw [← (Prod.mk.inj (Except.ok.inj h)).1]
  exact isJson_ofUnits text

/-- What stands without quotes and brackets is a word or a number. -/
lemma isJson_of_readPlain {us rest : List Nat} {s : Scalar}
    (h : readPlain us = .ok (s, rest)) : s.IsJson := by
  unfold readPlain at h
  extract_lets cs at h
  split at h
  · next w _ hfind =>
      cases h
      exact isJson_of_mem_words _ (List.mem_of_find?_eq_some hfind)
  · rw [bind_eq_ok_iff] at h
    obtain ⟨found, hnumber, h⟩ := h
    cases found with
    | none => cases h
    | some p =>
        rw [← (Prod.mk.inj (Except.ok.inj h)).1]
        exact isJson_of_readNumber hnumber

/-- The keys and values of entries are of the kind that a JSON text can hold. -/
def AreJson (entries : List (Scalar × Value)) : Prop := ∀ p ∈ entries, p.1.IsJson ∧ p.2.IsJson

lemma AreJson.isJson_map {entries : List (Scalar × Value)} (h : AreJson entries) :
    (Value.map entries).IsJson :=
  .map (fun p hp => (h p hp).1) fun p hp => (h p hp).2

/-- An entry that is put among others replaces one with its key, or comes last. -/
lemma AreJson.put {key : Scalar} {value : Value} (hkey : key.IsJson) (hvalue : value.IsJson)
    {entries : List (Scalar × Value)} (h : AreJson entries) :
    AreJson (put key value entries) := by
  induction entries with
  | nil => exact List.forall_mem_singleton.mpr ⟨hkey, hvalue⟩
  | cons e r ih =>
      obtain ⟨he, hr⟩ := List.forall_mem_cons.mp h
      rw [WidgetContracts.put]
      split
      -- the earlier key stays, with the new value
      · exact List.forall_mem_cons.mpr ⟨⟨he.1, hvalue⟩, hr⟩
      · exact List.forall_mem_cons.mpr ⟨he, ih hr⟩

/-! ### Documents -/

/-- With `fuel` steps only documents of this kind are read, and only such members and entries. -/
structure ReadsJson (fuel : Nat) : Prop where
  value {depth : Nat} {us rest : List Nat} {v : Value}
    (h : readValue fuel depth us = .ok (v, rest)) : v.IsJson
  items {depth : Nat} {us rest : List Nat} {items : List Value}
    (h : readItems fuel depth us = .ok (items, rest)) : ∀ v ∈ items, v.IsJson
  entries {depth : Nat} {before entries : List (Scalar × Value)} {us rest : List Nat}
    (hbefore : AreJson before) (h : readEntries fuel depth before us = .ok (entries, rest)) :
    AreJson entries

namespace ReadsJson

variable {fuel depth : Nat} {us rest : List Nat}

/-- A document is a text, a word, a number, or a collection whose parts are read with less fuel. -/
lemma value_succ (hr : ReadsJson fuel) {v : Value}
    (h : readValue (fuel + 1) depth us = .ok (v, rest)) : v.IsJson := by
  unfold readValue at h
  split at h
  · cases h
  · next hfuel =>
      cases hfuel
      rw [bind_eq_ok_iff] at h
      obtain ⟨⟨s, _⟩, htext, h⟩ := h
      rw [← (Prod.mk.inj (Except.ok.inj h)).1]
      exact .scalar (isJson_of_readText htext)
  · next hfuel =>
      cases hfuel
      split at h
      · cases h
      · cases h
        exact .list (List.forall_mem_nil _)
      · rw [bind_eq_ok_iff] at h
        obtain ⟨⟨items, _⟩, hitems, h⟩ := h
        rw [← (Prod.mk.inj (Except.ok.inj h)).1]
        exact .list (hr.items hitems)
  · next hfuel =>
      cases hfuel
      split at h
      · cases h
      · cases h
        exact AreJson.isJson_map (List.forall_mem_nil _)
      · rw [bind_eq_ok_iff] at h
        obtain ⟨⟨entries, _⟩, hentries, h⟩ := h
        rw [← (Prod.mk.inj (Except.ok.inj h)).1]
        exact (hr.entries (List.forall_mem_nil _) hentries).isJson_map
  · rw [bind_eq_ok_iff] at h
    obtain ⟨⟨s, _⟩, hplain, h⟩ := h
    rw [← (Prod.mk.inj (Except.ok.inj h)).1]
    exact .scalar (isJson_of_readPlain hplain)

lemma items_succ (hr : ReadsJson fuel) {items : List Value}
    (h : readItems (fuel + 1) depth us = .ok (items, rest)) : ∀ v ∈ items, v.IsJson := by
  rw [readItems, bind_eq_ok_iff] at h
  obtain ⟨⟨v, _⟩, hvalue, h⟩ := h
  have hv : v.IsJson := hr.value hvalue
  dsimp only at h
  split at h
  · rw [← (Prod.mk.inj (Except.ok.inj h)).1]
    exact List.forall_mem_singleton.mpr hv
  · rw [bind_eq_ok_iff] at h
    obtain ⟨⟨more, _⟩, hmore, h⟩ := h
    rw [← (Prod.mk.inj (Except.ok.inj h)).1]
    exact List.forall_mem_cons.mpr ⟨hv, hr.items hmore⟩
  · cases h

/-- Entries are put among those before them one after the other. -/
lemma entries_succ (hr : ReadsJson fuel) {before entries : List (Scalar × Value)}
    (hbefore : AreJson before)
    (h : readEntries (fuel + 1) depth before us = .ok (entries, rest)) : AreJson entries := by
  unfold readEntries at h
  split at h
  · cases h
  · next hfuel =>
      cases hfuel
      rw [bind_eq_ok_iff] at h
      obtain ⟨⟨key, _⟩, hkey, h⟩ := h
      dsimp only at h
      split at h
      · rw [bind_eq_ok_iff] at h
        obtain ⟨⟨v, _⟩, hvalue, h⟩ := h
        have hput : AreJson (put key v before) :=
          hbefore.put (isJson_of_readText hkey) (hr.value hvalue)
        dsimp only at h
        split at h
        · rw [← (Prod.mk.inj (Except.ok.inj h)).1]
          exact hput
        · exact hr.entries hput h
        · cases h
      · cases h
  · cases h

end ReadsJson

/-- All steps read only documents of this kind. -/
lemma readsJson (fuel : Nat) : ReadsJson fuel := by
  induction fuel with
  | zero =>
      refine ⟨fun h => ?_, fun h => ?_, fun _ h => ?_⟩
      · rw [readValue] at h
        cases h
      · rw [readItems] at h
        cases h
      · rw [readEntries] at h
        cases h
  | succ fuel ih => exact ⟨ih.value_succ, ih.items_succ, ih.entries_succ⟩

/-- **All that is read from a text is of the kind that a JSON text can hold**, and so can be
spelled. -/
theorem isJson_of_parse {us : List Nat} {v : Value} (h : parse us = .ok v) : v.IsJson := by
  rw [parse, bind_eq_ok_iff] at h
  obtain ⟨⟨v', _⟩, hvalue, h⟩ := h
  dsimp only at h
  split at h
  · rw [← Except.ok.inj h]
    exact (readsJson _).value hvalue
  · cases h

end Json

end WidgetContracts
