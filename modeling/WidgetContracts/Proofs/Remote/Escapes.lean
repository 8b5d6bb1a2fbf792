/-
What the escapes of an address stand for.

* `Text.Utf8.encode_injective`: a text is known from its bytes.
* `Url.HasEscape`: a percent sign with two hexadecimal digits behind it stands in a text.
* `Url.unescape_escape`: a path that is escaped stands for the same bytes.
* `Url.unescape_eq_encode`, `Url.not_hasEscape_of_length_le`: a text stands for its own bytes if it
  has no escape, and else for fewer.
-/
import Mathlib.Tactic.Lemma
import Mathlib.Tactic.SplitIfs
import WidgetContracts.Remote.Escape

namespace WidgetContracts

namespace Text.Utf8

lemma encode_cons (c : Char) (cs : List Char) :
    encode (c :: cs) = String.utf8EncodeChar c ++ encode cs := List.flatMap_cons

lemma encode_append (as bs : List Char) : encode (as ++ bs) = encode as ++ encode bs :=
  List.flatMap_append

lemma length_utf8EncodeChar_pos (c : Char) : 0 < (String.utf8EncodeChar c).length := by
  rw [String.length_utf8EncodeChar]
  exact c.utf8Size_pos

/-- Each character has a byte. -/
lemma length_le_length_encode (cs : List Char) : cs.length ≤ (encode cs).length := by
  induction cs with
  | nil => exact Nat.le_refl _
  | cons c r ih =>
      have hc := length_utf8EncodeChar_pos c
      rw [encode_cons, List.length_cons, List.length_append]
      omega

lemma encode_injective : Function.Injective encode := by
  intro as bs h
  refine String.ofList_injective (String.toByteArray_inj.mp ?_)
  rw [String.toByteArray_ofList, String.toByteArray_ofList]
  exact congrArg List.toByteArray h

end Text.Utf8

namespace Url

open Text (hexValue? hexNumber?)
open Text.Utf8 (encode encode_cons)

/-! ### Reading escapes -/

/-- Two hexadecimal digits stand at the front of a text. -/
def BeginsHex (cs : List Char) : Prop :=
  ∃ a b r, cs = a :: b :: r ∧ (hexNumber? [a, b]).isSome

/-- A percent sign with two hexadecimal digits behind it stands in a text. -/
def HasEscape (cs : List Char) : Prop := ∃ r, '%' :: r <:+ cs ∧ BeginsHex r

/-- Whether two digits make a number is a matter of each of them. -/
lemma isSome_hexNumber? {a b : Char} :
    (hexNumber? [a, b]).isSome ↔ (hexValue? a).isSome ∧ (hexValue? b).isSome := by
  cases ha : hexValue? a <;> cases hb : hexValue? b <;> simp [hexNumber?, ha, hb]

lemma hasEscape_cons {c : Char} {r : List Char} :
    HasEscape (c :: r) ↔ (c = '%' ∧ BeginsHex r) ∨ HasEscape r := by
  constructor
  · rintro ⟨r', hr', hhex⟩
    rcases List.suffix_cons_iff.mp hr' with heq | hin
    · obtain ⟨rfl, rfl⟩ := List.cons.inj heq
      exact .inl ⟨rfl, hhex⟩
    · exact .inr ⟨r', hin, hhex⟩
  · rintro (⟨rfl, hhex⟩ | ⟨r', hr', hhex⟩)
    · exact ⟨r, List.suffix_refl _, hhex⟩
    · exact ⟨r', hr'.trans (List.suffix_cons c r), hhex⟩

lemma unescape_percent_hex {a b : Char} {n : Nat} (h : hexNumber? [a, b] = some n)
    (r : List Char) : unescape ('%' :: a :: b :: r) = UInt8.ofNat n :: unescape r := by
  rw [unescape, h]

/-- A character that begins no escape stands for itself. -/
lemma unescape_cons {c : Char} {r : List Char} (h : ¬(c = '%' ∧ BeginsHex r)) :
    unescape (c :: r) = String.utf8EncodeChar c ++ unescape r := by
  match c, r with
  | c, [] | c, [_] => rw [unescape]; simp
  | c, a :: b :: r =>
      by_cases hc : c = '%'
      · subst hc
        have hnone : hexNumber? [a, b] = none :=
          Option.not_isSome_iff_eq_none.mp fun hsome => h ⟨rfl, a, b, r, rfl, hsome⟩
        rw [unescape, hnone]
        rfl
      · rw [unescape]
        rintro a b r' rfl
        exact absurd rfl hc

lemma hexNumber?_hexDigits :
    ∀ n < 256, hexNumber? ((Text.hexDigits 2 n).map Char.toUpper) = some n := by
  decide +kernel

/-- An escaped byte stands for the byte. -/
lemma unescape_percent_append (b : UInt8) (r : List Char) :
    unescape (percent b ++ r) = b :: unescape r := by
  have h := unescape_percent_hex (hexNumber?_hexDigits b.toNat b.toNat_lt) r
  rw [UInt8.ofNat_toNat] at h
  exact h

lemma unescape_flatMap_percent (bs : List UInt8) (r : List Char) :
    unescape (bs.flatMap percent ++ r) = bs ++ unescape r := by
  induction bs with
  | nil => rfl
  | cons b bs ih => rw [List.flatMap_cons, List.append_assoc, unescape_percent_append, ih]; rfl

/-- Texts are built from escapes and from characters that begin none. -/
@[elab_as_elim]
lemma escapes_induction {motive : List Char → Prop} (nil : motive [])
    (hex : ∀ a b r n, hexNumber? [a, b] = some n → motive r → motive ('%' :: a :: b :: r))
    (plain : ∀ c r, ¬(c = '%' ∧ BeginsHex r) → motive r → motive (c :: r)) (cs : List Char) :
    motive cs := by
  induction cs using unescape.induct with
  | case1 a b r n hn ih => exact hex a b r n hn ih
  | case2 a b r hnone ih =>
      refine plain _ _ ?_ ih
      rintro ⟨-, a', b', r', heq, hsome⟩
      obtain ⟨rfl, hrest⟩ := List.cons.inj heq
      obtain ⟨rfl, rfl⟩ := List.cons.inj hrest
      rw [hnone] at hsome
      cases hsome
  | case3 c r hother ih =>
      refine plain _ _ ?_ ih
      rintro ⟨rfl, a, b, r', rfl, -⟩
      exact hother a b r' rfl rfl
  | case4 => exact nil

/-! ### A text and what it stands for -/

/-- Without escapes, a text stands for its own bytes. -/
lemma unescape_eq_encode {cs : List Char} (h : ¬HasEscape cs) : unescape cs = encode cs := by
  induction cs with
  | nil => rfl
  | cons c r ih =>
      rw [hasEscape_cons, not_or] at h
      rw [unescape_cons h.1, ih h.2, encode_cons]

/-- An escape has a byte for its percent sign, and others for its digits. -/
lemma length_encode_escape (a b : Char) (r : List Char) :
    (encode r).length + 2 ≤ (encode ('%' :: a :: b :: r)).length := by
  have hsign := Text.Utf8.length_utf8EncodeChar_pos '%'
  have hdigit := Text.Utf8.length_utf8EncodeChar_pos a
  simp only [encode_cons, List.length_append]
  omega

lemma length_unescape_le (cs : List Char) : (unescape cs).length ≤ (encode cs).length := by
  induction cs using escapes_induction with
  | nil => exact Nat.le_refl _
  | hex a b r n hn ih =>
      have := length_encode_escape a b r
      rw [unescape_percent_hex hn, List.length_cons]
      omega
  | plain c r hplain ih =>
      rw [unescape_cons hplain, encode_cons, List.length_append, List.length_append]
      omega

/-- A text that stands for as many bytes as it has is without escapes. -/
lemma not_hasEscape_of_length_le {cs : List Char}
    (h : (encode cs).length ≤ (unescape cs).length) : ¬HasEscape cs := by
  induction cs using escapes_induction with
  | nil =>
      rintro ⟨r, hr, -⟩
      exact absurd (List.suffix_nil.mp hr) (List.cons_ne_nil _ _)
  | hex a b r n hn ih =>
      have := length_encode_escape a b r
      have := length_unescape_le r
      rw [unescape_percent_hex hn, List.length_cons] at h
      omega
  | plain c r hplain ih =>
      rw [unescape_cons hplain, encode_cons, List.length_append, List.length_append] at h
      rw [hasEscape_cons]
      exact not_or.mpr ⟨hplain, ih (by omega)⟩

/-- **A part of a text that stands for the bytes of the whole is the whole, without escapes.** -/
lemma eq_of_infix_of_unescape_eq {t cs : List Char} (hpart : t <:+: cs)
    (h : unescape t = encode cs) : t = cs ∧ ¬HasEscape cs := by
  obtain ⟨before, after, rfl⟩ := hpart
  have hle := length_unescape_le t
  have hbefore := Text.Utf8.length_le_length_encode before
  have hafter := Text.Utf8.length_le_length_encode after
  have hlength := congrArg List.length h
  rw [Text.Utf8.encode_append, Text.Utf8.encode_append, List.length_append,
    List.length_append] at hlength
  obtain rfl : before = [] := List.eq_nil_of_length_eq_zero (by omega)
  obtain rfl : after = [] := List.eq_nil_of_length_eq_zero (by omega)
  rw [List.nil_append, List.append_nil] at h ⊢
  exact ⟨rfl, not_hasEscape_of_length_le (Nat.le_of_eq (congrArg List.length h.symm))⟩

/-! ### Escaping a path -/

lemma escape_append (listed as bs : List Char) :
    escape listed (as ++ bs) = escape listed as ++ escape listed bs := List.flatMap_append

/-- What is escaped in a path is neither a percent sign nor a digit of an escape. -/
lemma of_mem_escapedInPath {c : Char} (h : c ∈ escapedInPath) : c ≠ '%' ∧ hexValue? c = none := by
  have hall : escapedInPath.all (fun c => c != '%' && (hexValue? c).isNone) = true := by decide
  simpa using List.all_eq_true.mp hall c h

/-- An escape is a sign and its digits. -/
lemma of_mem_percent {b : UInt8} {c : Char} (h : c ∈ percent b) :
    c = '%' ∨ (hexValue? c).isSome := by
  have hall : ∀ n < 256, ((Text.hexDigits 2 n).map Char.toUpper).all
      (fun c => (hexValue? c).isSome) = true := by decide +kernel
  exact (List.mem_cons.mp h).imp_right (List.all_eq_true.mp (hall b.toNat b.toNat_lt) c)

lemma toNat_lt_of_hexValue? {c : Char} (h : (hexValue? c).isSome) : c.toNat < 0x80 := by
  rw [hexValue?] at h
  split_ifs at h with hdigit hsmall hcapital
  · exact Nat.lt_of_le_of_lt hdigit.2 (by decide)
  · exact Nat.lt_of_le_of_lt hsmall.2 (by decide)
  · exact Nat.lt_of_le_of_lt hcapital.2 (by decide)
  · cases h

/-- A character stays in a path, or it is no part of an escape and its bytes are escaped. -/
lemma escape_path_cons (c : Char) (r : List Char) :
    (c ∉ escapedInPath ∧ escape escapedInPath (c :: r) = c :: escape escapedInPath r) ∨
      ((c ≠ '%' ∧ hexValue? c = none) ∧ escape escapedInPath (c :: r) =
        (String.utf8EncodeChar c).flatMap percent ++ escape escapedInPath r) := by
  rw [escape, List.flatMap_cons]
  split_ifs with hstays
  · rw [Bool.and_eq_true, Bool.not_eq_true', List.contains_eq_mem,
      decide_eq_false_iff_not] at hstays
    exact .inl ⟨hstays.2, rfl⟩
  · refine .inr ⟨?_, rfl⟩
    rw [Bool.and_eq_true, Bool.not_eq_true', List.contains_eq_mem, decide_eq_false_iff_not,
      decide_eq_true_eq, Classical.not_and_iff_not_or_not, Decidable.not_not] at hstays
    rcases hstays with hfar | hlisted
    · refine ⟨?_, Option.not_isSome_iff_eq_none.mp fun h => hfar (toNat_lt_of_hexValue? h)⟩
      rintro rfl
      exact hfar (by decide)
    · exact of_mem_escapedInPath hlisted

/-- What stands in an escaped path stood there before, or is part of an escape. -/
lemma of_mem_escape_path {cs : List Char} {x : Char} (h : x ∈ escape escapedInPath cs) :
    (x ∈ cs ∧ x ∉ escapedInPath) ∨ x = '%' ∨ (hexValue? x).isSome := by
  induction cs with
  | nil => cases h
  | cons c r ih =>
      rcases escape_path_cons c r with ⟨hc, heq⟩ | ⟨-, heq⟩
      · rw [heq, List.mem_cons] at h
        rcases h with rfl | h
        · exact .inl ⟨List.mem_cons_self, hc⟩
        · exact (ih h).imp_left fun hx => ⟨List.mem_cons_of_mem _ hx.1, hx.2⟩
      · rw [heq, List.mem_append, List.mem_flatMap] at h
        rcases h with ⟨b, -, hx⟩ | h
        · exact .inr (of_mem_percent hx)
        · exact (ih h).imp_left fun hx => ⟨List.mem_cons_of_mem _ hx.1, hx.2⟩

/-- What begins a query or a fragment stands in no escaped path. -/
lemma notMem_escape_path {cs : List Char} {x : Char} (hx : x ∈ escapedInPath) :
    x ∉ escape escapedInPath cs := by
  intro h
  obtain ⟨hsign, hdigit⟩ := of_mem_escapedInPath hx
  rcases of_mem_escape_path h with ⟨-, hnot⟩ | rfl | hsome
  · exact hnot hx
  · exact hsign rfl
  · rw [hdigit] at hsome
    cases hsome

/-- Escaping brings no slash. -/
lemma slash_notMem_escape_path {cs : List Char} (h : '/' ∉ cs) :
    '/' ∉ escape escapedInPath cs := by
  intro hmem
  rcases of_mem_escape_path hmem with ⟨hin, -⟩ | hsign | hdigit
  · exact h hin
  · exact absurd hsign (by decide)
  · exact absurd hdigit (by decide)

/-- A digit at the front of an escaped path stood there before. -/
lemma of_escape_path_eq_cons {cs r : List Char} {a : Char} (ha : (hexValue? a).isSome)
    (h : escape escapedInPath cs = a :: r) : ∃ r', cs = a :: r' ∧ escape escapedInPath r' = r := by
  cases cs with
  | nil => cases h
  | cons c r' =>
      rcases escape_path_cons c r' with ⟨-, heq⟩ | ⟨-, heq⟩
      · obtain ⟨rfl, hr⟩ := List.cons.inj (heq.symm.trans h)
        exact ⟨r', rfl, hr⟩
      · obtain ⟨b, bs, hb⟩ :=
          List.exists_cons_of_length_pos (Text.Utf8.length_utf8EncodeChar_pos c)
        rw [heq, hb] at h
        obtain ⟨rfl, -⟩ := List.cons.inj h
        exact absurd ha (by decide)

lemma beginsHex_of_escape_path {cs : List Char} (h : BeginsHex (escape escapedInPath cs)) :
    BeginsHex cs := by
  obtain ⟨a, b, r, heq, hsome⟩ := h
  obtain ⟨ha, hb⟩ := isSome_hexNumber?.mp hsome
  obtain ⟨cs', rfl, hrest⟩ := of_escape_path_eq_cons ha heq
  obtain ⟨cs'', rfl, -⟩ := of_escape_path_eq_cons hb hrest
  exact ⟨a, b, cs'', rfl, hsome⟩

/-- A character that is part of escapes stays in a path. -/
lemma escape_path_cons_of_isSome {c : Char} (h : (hexValue? c).isSome) (r : List Char) :
    escape escapedInPath (c :: r) = c :: escape escapedInPath r := by
  rcases escape_path_cons c r with ⟨-, heq⟩ | ⟨⟨-, hnone⟩, -⟩
  · exact heq
  · rw [hnone] at h
    cases h

/-- **A path that is escaped stands for the same bytes.** -/
lemma unescape_escape_path (cs : List Char) :
    unescape (escape escapedInPath cs) = unescape cs := by
  induction cs using escapes_induction with
  | nil => rfl
  | hex a b r n hn ih =>
      obtain ⟨ha, hb⟩ := isSome_hexNumber?.mp (Option.isSome_of_eq_some hn)
      have hsign : escape escapedInPath ('%' :: a :: b :: r) =
          '%' :: escape escapedInPath (a :: b :: r) := rfl
      rw [hsign, escape_path_cons_of_isSome ha, escape_path_cons_of_isSome hb,
        unescape_percent_hex hn, unescape_percent_hex hn, ih]
  | plain c r hplain ih =>
      rw [unescape_cons hplain]
      rcases escape_path_cons c r with ⟨-, heq⟩ | ⟨-, heq⟩
      · rw [heq, unescape_cons fun h => hplain ⟨h.1, beginsHex_of_escape_path h.2⟩, ih]
      · rw [heq, unescape_flatMap_percent, ih]

end Url

end WidgetContracts
