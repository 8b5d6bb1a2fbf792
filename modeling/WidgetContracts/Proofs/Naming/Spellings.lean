/-
The customary spellings of a name come to the same words.

* `Spelling`, `Spelling.join`: four ways to join words.
* `partWords_append`: the first pass over words with capitals in front finds every second boundary,
  since it has taken the small letters before the others; `partCapitals_append`: the second pass
  finds those.
* `snakeCase_join`: in all four spellings, a name becomes its words joined by underscores.
* `Names`, `spellings_agree`: a type may be named in any spelling, with blanks around it.
-/
import Mathlib.Data.List.Basic
import WidgetContracts.FieldType
import WidgetContracts.Proofs.Naming.Separators

namespace WidgetContracts

namespace Naming

open Text

/-- A word of at least two small letters. -/
structure IsWord (w : List Char) : Prop where
  long : 2 ≤ w.length
  small : ∀ c ∈ w, isSmall c = true

/-- A word with a capital in front. -/
def capitalize : List Char → List Char
  | [] => []
  | c :: r => c.toUpper :: r

/-- The customary ways to join words. -/
inductive Spelling where
  | camel
  | pascal
  | snake
  | screaming
  deriving DecidableEq, Repr

/-- Words joined in a spelling. -/
def Spelling.join : Spelling → List (List Char) → List Char
  | camel, [] => []
  | camel, w :: ws => w ++ ws.flatMap capitalize
  | pascal, ws => ws.flatMap capitalize
  | snake, ws => ['_'].intercalate ws
  | screaming, ws => (['_'].intercalate ws).map Char.toUpper

/-! ### Letters -/

/-- What holds of the small letters one by one. -/
lemma forall_small {p : Char → Prop} (h : ∀ n < 26, p (Char.ofNat (0x61 + n))) {c : Char}
    (hc : isSmall c = true) : p c := by
  simp only [isSmall, Bool.and_eq_true, decide_eq_true_eq] at hc
  have hlo : 0x61 ≤ c.toNat := hc.1
  have hhi : c.toNat ≤ 0x7a := hc.2
  have hc' := h (c.toNat - 0x61) (by omega)
  rwa [Nat.add_sub_cancel' hlo, Char.ofNat_toNat] at hc'

lemma isCapital_of_small {c : Char} (hc : isSmall c = true) : isCapital c = false :=
  forall_small (p := fun c => isCapital c = false) (by decide) hc

lemma ne_lf_of_small {c : Char} (hc : isSmall c = true) : c ≠ '\n' :=
  forall_small (p := fun c => c ≠ '\n') (by decide) hc

lemma isCapital_toUpper {c : Char} (hc : isSmall c = true) : isCapital c.toUpper = true :=
  forall_small (p := fun c => isCapital c.toUpper = true) (by decide) hc

lemma isSmall_toUpper {c : Char} (hc : isSmall c = true) : isSmall c.toUpper = false :=
  forall_small (p := fun c => isSmall c.toUpper = false) (by decide) hc

lemma isFigure_toUpper {c : Char} (hc : isSmall c = true) : isFigure c.toUpper = false :=
  forall_small (p := fun c => isFigure c.toUpper = false) (by decide) hc

lemma toLower_of_small {c : Char} (hc : isSmall c = true) : c.toLower = c :=
  forall_small (p := fun c => c.toLower = c) (by decide) hc

lemma toLower_toUpper {c : Char} (hc : isSmall c = true) : c.toUpper.toLower = c :=
  forall_small (p := fun c => c.toUpper.toLower = c) (by decide) hc

/-- A character stands in a name of words. -/
inductive InName : Char → Prop
  | small {c : Char} (small : isSmall c = true) : InName c
  | capital {c : Char} (small : isSmall c = true) : InName c.toUpper
  | underscore : InName '_'

lemma InName.lt_and_isBlank {c : Char} (h : InName c) : c.toNat < 0x80 ∧ isBlank c = false := by
  cases h with
  | small hc => exact forall_small (p := fun c => c.toNat < 0x80 ∧ isBlank c = false) (by decide) hc
  | capital hc =>
      exact forall_small (p := fun c => c.toUpper.toNat < 0x80 ∧ isBlank c.toUpper = false)
        (by decide) hc
  | underscore => decide

/-! ### Lower case of ASCII text, and blanks around a text -/

/-- The lower case of ASCII text is that of its characters. -/
lemma lower_of_ascii {cs : List Char} (h : ∀ c ∈ cs, c.toNat < 0x80) :
    lower cs = cs.map Char.toLower := by
  have hone : ∀ n < 0x80, lowerOf (Char.ofNat n) = [(Char.ofNat n).toLower] ∧
      Char.ofNat n ≠ 'Σ' := by
    decide
  have hafter : ∀ before : List Char, lowerAfter before cs = cs.map Char.toLower := by
    induction cs with
    | nil => exact fun _ => rfl
    | cons c r ih =>
        intro before
        rw [List.forall_mem_cons] at h
        obtain ⟨hlower, hsigma⟩ := hone c.toNat h.1
        rw [Char.ofNat_toNat] at hlower hsigma
        rw [lowerAfter, if_neg hsigma, hlower, ih h.2, List.map_cons, List.singleton_append]
  exact hafter []

lemma dropWhile_isBlank_of_forall {cs : List Char} (h : ∀ c ∈ cs, isBlank c = false) :
    cs.dropWhile isBlank = cs := by
  cases cs with
  | nil => rfl
  | cons c r => rw [List.dropWhile_cons_of_neg (by simp [h c List.mem_cons_self])]

/-- Blanks around a text without blanks are stripped. -/
lemma strip_append {front cs back : List Char} (hfront : ∀ c ∈ front, isBlank c = true)
    (hback : ∀ c ∈ back, isBlank c = true) (hne : cs ≠ []) (hcs : ∀ c ∈ cs, isBlank c = false) :
    strip (front ++ cs ++ back) = cs := by
  have hafter : (front ++ cs ++ back).dropWhile isBlank = cs ++ back := by
    rw [List.append_assoc, List.dropWhile_append_of_pos hfront]
    obtain ⟨c, r, rfl⟩ := List.exists_cons_of_ne_nil hne
    exact List.dropWhile_cons_of_neg (by simp [hcs c List.mem_cons_self])
  have hback' : ∀ c ∈ back.reverse, isBlank c = true := by simpa using hback
  have hcs' : ∀ c ∈ cs.reverse, isBlank c = false := by simpa using hcs
  rw [strip, hafter, dropEndWhile, List.reverse_append, List.dropWhile_append_of_pos hback',
    dropWhile_isBlank_of_forall hcs', List.reverse_reverse]

/-! ### The two passes -/

section

variable {c d : Char} {r : List Char}

lemma partWords_small (inWord : Bool) (hc : isSmall c = true) (hd : isSmall d = true) :
    partWords inWord (c :: d :: r) = c :: partWords inWord (d :: r) := by
  cases inWord <;> simp [partWords, hc, isCapital_of_small hd]

/-- Behind a capital begin the small letters of its word. -/
lemma partWords_capital (inWord : Bool) (hc : isSmall c = true) (hd : isSmall d = true) :
    partWords inWord (c.toUpper :: d :: r) = c.toUpper :: partWords false (d :: r) := by
  simp [partWords, isSmall_toUpper hc, isCapital_of_small hd]

/-- A boundary is found if the small letter in front has not been taken. -/
lemma partWords_boundary {e : Char} (hc : isSmall c = true) (hd : isSmall d = true)
    (he : isSmall e = true) : partWords false (c :: d.toUpper :: e :: r) =
      c :: '_' :: d.toUpper :: partWords true (e :: r) := by
  simp [partWords, ne_lf_of_small hc, isCapital_toUpper hd, beginsSmall, he]

/-- A boundary is passed over if the small letter in front belongs to a word that was found. -/
lemma partWords_passed {e : Char} (hc : isSmall c = true) (hd : isSmall d = true)
    (he : isSmall e = true) : partWords true (c :: d.toUpper :: e :: r) =
      c :: d.toUpper :: partWords false (e :: r) := by
  rw [← partWords_capital true hd he, partWords]
  simp [hc]

lemma partCapitals_of_not_small (hc : isSmall c = false) (hfigure : isFigure c = false) :
    partCapitals (c :: r) = c :: partCapitals r := by
  cases r with
  | nil => rfl
  | cons d r => simp [partCapitals, hc, hfigure]

lemma partCapitals_of_not_capital (hd : isCapital d = false) :
    partCapitals (c :: d :: r) = c :: partCapitals (d :: r) := by
  simp [partCapitals, hd]

lemma partCapitals_boundary (hc : isSmall c = true) (hd : isCapital d = true) :
    partCapitals (c :: d :: r) = c :: '_' :: partCapitals (d :: r) := by
  simp [partCapitals, hc, hd]

end

lemma IsWord.exists_cons {w : List Char} (h : IsWord w) : ∃ c d r, w = c :: d :: r ∧
    isSmall c = true ∧ isSmall d = true ∧ ∀ e ∈ d :: r, isSmall e = true := by
  obtain ⟨hlong, hsmall⟩ := h
  match w, hlong with
  | c :: d :: r, _ =>
    rw [List.forall_mem_cons] at hsmall
    exact ⟨c, d, r, rfl, hsmall.1, hsmall.2 d List.mem_cons_self, hsmall.2⟩

/-- A run of small letters has a last one. -/
lemma exists_last_small {w : List Char} (hne : w ≠ []) (hw : ∀ c ∈ w, isSmall c = true) :
    ∃ front c, w = front ++ [c] ∧ (∀ x ∈ front, isSmall x = true) ∧ isSmall c = true := by
  obtain rfl | ⟨front, c, rfl⟩ := List.eq_nil_or_concat' w
  · exact absurd rfl hne
  · rw [List.forall_mem_append, List.forall_mem_singleton] at hw
    exact ⟨front, c, rfl, hw⟩

/-- Words with capitals in front, every second of which has an underscore before it; `found` says
whether the first one has. -/
def halfParted : (found : Bool) → List (List Char) → List Char
  | _, [] => []
  | true, w :: ws => '_' :: capitalize w ++ halfParted false ws
  | false, w :: ws => capitalize w ++ halfParted true ws

/-- Inside a word the first pass changes nothing. -/
lemma partWords_inside (inWord : Bool) {w : List Char} (hw : ∀ x ∈ w, isSmall x = true) {c : Char}
    (hc : isSmall c = true) (r : List Char) :
    partWords inWord (w ++ c :: r) = w ++ partWords inWord (c :: r) := by
  induction w with
  | nil => rfl
  | cons x w ih =>
      rw [List.forall_mem_cons] at hw
      rw [List.cons_append, List.cons_append, ← ih hw.2]
      cases w with
      | nil => exact partWords_small inWord hw.1 hc
      | cons y w => exact partWords_small inWord hw.1 (hw.2 y List.mem_cons_self)

/-- Inside a word the second pass changes nothing. -/
lemma partCapitals_inside {w : List Char} (hw : ∀ x ∈ w, isSmall x = true) {c : Char}
    (hc : isSmall c = true) (r : List Char) :
    partCapitals (w ++ c :: r) = w ++ partCapitals (c :: r) := by
  induction w with
  | nil => rfl
  | cons x w ih =>
      rw [List.forall_mem_cons] at hw
      rw [List.cons_append, List.cons_append, ← ih hw.2]
      cases w with
      | nil => exact partCapitals_of_not_capital (isCapital_of_small hc)
      | cons y w =>
          exact partCapitals_of_not_capital (isCapital_of_small (hw.2 y List.mem_cons_self))

/-- The first pass over the rest of a word and the words after it: the next boundary is found unless
the rest belongs to a word that was found itself. -/
lemma partWords_append {ws : List (List Char)} (hws : ∀ w ∈ ws, IsWord w) (inWord : Bool)
    {w : List Char} (hne : w ≠ []) (hw : ∀ c ∈ w, isSmall c = true) :
    partWords inWord (w ++ ws.flatMap capitalize) = w ++ halfParted (!inWord) ws := by
  induction ws generalizing inWord w with
  | nil =>
      obtain ⟨front, c, rfl, hfront, hc⟩ := exists_last_small hne hw
      simp [partWords_inside inWord hfront hc, partWords, halfParted]
  | cons v vs ih =>
      obtain ⟨front, c, rfl, hfront, hc⟩ := exists_last_small hne hw
      rw [List.forall_mem_cons] at hws
      obtain ⟨x, y, v, rfl, hx, hy, hv⟩ := hws.1.exists_cons
      -- the small letters of the next word are taken if its boundary is found
      have hrest := fun b => ih hws.2 b (List.cons_ne_nil y v) hv
      simp only [List.cons_append] at hrest
      rw [List.append_assoc, List.singleton_append, partWords_inside inWord hfront hc]
      cases inWord with
      | true => simp [capitalize, halfParted, partWords_passed hc hx hy, hrest]
      | false => simp [capitalize, halfParted, partWords_boundary hc hx hy, hrest]

/-- The second pass over the rest of a word and the words after it finds what the first pass has
not found. -/
lemma partCapitals_append {ws : List (List Char)} (hws : ∀ w ∈ ws, IsWord w) (found : Bool)
    {w : List Char} (hne : w ≠ []) (hw : ∀ c ∈ w, isSmall c = true) :
    partCapitals (w ++ halfParted found ws) = w ++ ws.flatMap fun v => '_' :: capitalize v := by
  induction ws generalizing found w with
  | nil =>
      obtain ⟨front, c, rfl, hfront, hc⟩ := exists_last_small hne hw
      simp [partCapitals_inside hfront hc, partCapitals, halfParted]
  | cons v vs ih =>
      obtain ⟨front, c, rfl, hfront, hc⟩ := exists_last_small hne hw
      rw [List.forall_mem_cons] at hws
      obtain ⟨x, y, v, rfl, hx, hy, hv⟩ := hws.1.exists_cons
      have hrest : ∀ b, partCapitals (x.toUpper :: y :: (v ++ halfParted b vs)) =
          x.toUpper :: y :: (v ++ vs.flatMap fun v => '_' :: capitalize v) := by
        intro b
        have hv' := ih hws.2 b (List.cons_ne_nil y v) hv
        rw [partCapitals_of_not_small (isSmall_toUpper hx) (isFigure_toUpper hx)]
        exact congrArg (x.toUpper :: ·) hv'
      rw [List.append_assoc, List.singleton_append, partCapitals_inside hfront hc]
      cases found with
      | true =>
          have hunderscore : ∀ r, partCapitals (c :: '_' :: r) = c :: '_' :: partCapitals r := by
            intro r
            rw [partCapitals_of_not_capital (by decide),
              partCapitals_of_not_small (by decide) (by decide)]
          simp [capitalize, halfParted, hunderscore, hrest]
      | false =>
          simp [capitalize, halfParted, partCapitals_boundary hc (isCapital_toUpper hx), hrest]

/-- Together, the two passes find all boundaries. -/
lemma passes_append {ws : List (List Char)} (hws : ∀ w ∈ ws, IsWord w) {w : List Char}
    (hne : w ≠ []) (hw : ∀ c ∈ w, isSmall c = true) :
    partCapitals (partWords false (w ++ ws.flatMap capitalize)) =
      w ++ ws.flatMap fun v => '_' :: capitalize v := by
  rw [partWords_append hws false hne hw, partCapitals_append hws _ hne hw]

lemma passes_capital {c d : Char} {r : List Char} (hc : isSmall c = true) (hd : isSmall d = true) :
    partCapitals (partWords false (c.toUpper :: d :: r)) =
      c.toUpper :: partCapitals (partWords false (d :: r)) := by
  rw [partWords_capital false hc hd,
    partCapitals_of_not_small (isSmall_toUpper hc) (isFigure_toUpper hc)]

/-- Where no capitals stand, neither pass changes anything. -/
lemma passes_of_no_capital {cs : List Char} (h : ∀ c ∈ cs, isCapital c = false) (inWord : Bool) :
    partWords inWord cs = cs ∧ partCapitals cs = cs := by
  induction cs generalizing inWord with
  | nil => exact ⟨by simp [partWords], rfl⟩
  | cons c r ih =>
      rw [List.forall_mem_cons] at h
      cases r with
      | nil => exact ⟨by simp [partWords], rfl⟩
      | cons d r =>
          have hd := h.2 d List.mem_cons_self
          refine ⟨?_, ?_⟩
          · rw [partWords, hd, Bool.and_false, Bool.false_and, if_neg Bool.false_ne_true]
            split
            · rw [(ih h.2 true).1]
            · rw [(ih h.2 false).1]
          · rw [partCapitals_of_not_capital hd, (ih h.2 true).2]

/-- Neither does where no small letters and digits stand. -/
lemma passes_of_no_small {cs : List Char}
    (h : ∀ c ∈ cs, isSmall c = false ∧ isFigure c = false) (inWord : Bool) :
    partWords inWord cs = cs ∧ partCapitals cs = cs := by
  induction cs generalizing inWord with
  | nil => exact ⟨by simp [partWords], rfl⟩
  | cons c r ih =>
      rw [List.forall_mem_cons] at h
      obtain ⟨⟨hsmall, hfigure⟩, hr⟩ := h
      refine ⟨?_, ?_⟩
      · cases r with
        | nil => simp [partWords]
        | cons d r =>
            have hbegins : beginsSmall r = false := by
              cases r with
              | nil => rfl
              | cons e r => exact (hr e (by simp)).1
            rw [partWords, hsmall, hbegins, Bool.and_false, Bool.and_false,
              if_neg Bool.false_ne_true, if_neg Bool.false_ne_true, (ih hr false).1]
      · rw [partCapitals_of_not_small hsmall hfigure, (ih hr true).2]

/-! ### The four spellings -/

section

variable {ws : List (List Char)}

lemma intercalate_underscore (w : List Char) (ws : List (List Char)) :
    ['_'].intercalate (w :: ws) = w ++ ws.flatMap fun v => '_' :: v := by
  induction ws generalizing w with
  | nil => simp
  | cons v vs ih => rw [List.intercalate_cons_cons, ih, List.flatMap_cons]; simp

lemma map_toLower_of_small {w : List Char} (hw : ∀ c ∈ w, isSmall c = true) :
    w.map Char.toLower = w := by
  rw [List.map_congr_left fun c hc => toLower_of_small (hw c hc), List.map_id']

lemma IsWord.map_toLower_capitalize {w : List Char} (hw : IsWord w) :
    (capitalize w).map Char.toLower = w := by
  obtain ⟨c, d, r, rfl, hc, -, hr⟩ := hw.exists_cons
  rw [capitalize, List.map_cons, toLower_toUpper hc, map_toLower_of_small hr]

/-- The characters of words joined by underscores. -/
lemma mem_intercalate_underscore (hws : ∀ w ∈ ws, IsWord w) {c : Char}
    (hc : c ∈ ['_'].intercalate ws) : isSmall c = true ∨ c = '_' := by
  cases ws with
  | nil => cases hc
  | cons w ws =>
      rw [List.forall_mem_cons] at hws
      rw [intercalate_underscore, List.mem_append, List.mem_flatMap] at hc
      rcases hc with hc | ⟨v, hv, hc⟩
      · exact .inl (hws.1.small c hc)
      · rcases List.mem_cons.mp hc with rfl | hc
        · exact .inr rfl
        · exact .inl ((hws.2 v hv).small c hc)

lemma inName_of_mem_capitalize {w : List Char} (hw : IsWord w) {c : Char}
    (hc : c ∈ capitalize w) : InName c := by
  obtain ⟨x, y, r, rfl, hx, -, hr⟩ := hw.exists_cons
  rcases List.mem_cons.mp hc with rfl | hc
  · exact .capital hx
  · exact .small (hr c hc)

/-- All characters of joined words are letters and underscores. -/
lemma Spelling.inName_of_mem (s : Spelling) (hws : ∀ w ∈ ws, IsWord w) {c : Char}
    (hc : c ∈ s.join ws) : InName c := by
  have hcapitals : ∀ vs : List (List Char), (∀ v ∈ vs, IsWord v) → c ∈ vs.flatMap capitalize →
      InName c := by
    intro vs hvs h
    obtain ⟨v, hv, hmem⟩ := List.mem_flatMap.mp h
    exact inName_of_mem_capitalize (hvs v hv) hmem
  cases s with
  | camel =>
      cases ws with
      | nil => cases hc
      | cons w ws =>
          rw [List.forall_mem_cons] at hws
          rcases List.mem_append.mp hc with hc | hc
          · exact .small (hws.1.small c hc)
          · exact hcapitals ws hws.2 hc
  | pascal => exact hcapitals ws hws hc
  | snake =>
      rcases mem_intercalate_underscore hws hc with hc | rfl
      · exact .small hc
      · exact .underscore
  | screaming =>
      obtain ⟨d, hd, rfl⟩ := List.mem_map.mp hc
      rcases mem_intercalate_underscore hws hd with hd | rfl
      · exact .capital hd
      · exact .underscore

lemma map_toLower_flatMap_capitalize (hws : ∀ w ∈ ws, IsWord w) :
    (ws.flatMap fun v => '_' :: capitalize v).map Char.toLower = ws.flatMap ('_' :: ·) := by
  rw [List.map_flatMap]
  refine List.flatMap_congr fun v hv => ?_
  rw [List.map_cons, (hws v hv).map_toLower_capitalize]
  rfl

/-- What holds of small letters and of underscores holds of words joined by underscores. -/
lemma forall_intercalate_underscore {p : Char → Prop} (hws : ∀ w ∈ ws, IsWord w)
    (hsmall : ∀ c, isSmall c = true → p c) (hunderscore : p '_') :
    ∀ c ∈ ['_'].intercalate ws, p c := by
  intro c hc
  rcases mem_intercalate_underscore hws hc with hc | rfl
  · exact hsmall c hc
  · exact hunderscore

/-- What the two passes make of a spelling; only the case is left to settle. -/
lemma map_toLower_passes (s : Spelling) (hws : ∀ w ∈ ws, IsWord w) :
    (partCapitals (partWords false (s.join ws))).map Char.toLower = ['_'].intercalate ws := by
  cases s with
  | camel =>
      cases ws with
      | nil => rfl
      | cons w ws =>
          rw [List.forall_mem_cons] at hws
          obtain ⟨c, d, r, rfl, -⟩ := hws.1.exists_cons
          rw [Spelling.join, passes_append hws.2 (List.cons_ne_nil _ _) hws.1.small,
            List.map_append, map_toLower_of_small hws.1.small,
            map_toLower_flatMap_capitalize hws.2, intercalate_underscore]
  | pascal =>
      cases ws with
      | nil => rfl
      | cons w ws =>
          rw [List.forall_mem_cons] at hws
          obtain ⟨c, d, r, rfl, hc, hd, hr⟩ := hws.1.exists_cons
          have hrest := passes_append hws.2 (List.cons_ne_nil d r) hr
          have hparted :
              partCapitals (partWords false (Spelling.pascal.join ((c :: d :: r) :: ws))) =
                capitalize (c :: d :: r) ++ ws.flatMap fun v => '_' :: capitalize v :=
            (passes_capital hc hd).trans (congrArg (c.toUpper :: ·) hrest)
          rw [hparted, List.map_append, hws.1.map_toLower_capitalize,
            map_toLower_flatMap_capitalize hws.2, intercalate_underscore]
  | snake =>
      have hno := forall_intercalate_underscore hws (fun _ => isCapital_of_small) (by decide)
      have hlower := forall_intercalate_underscore (p := fun c => c.toLower = c) hws
        (fun _ => toLower_of_small) (by decide)
      obtain ⟨hwords, hcapitals⟩ := passes_of_no_capital hno false
      rw [Spelling.join, hwords, hcapitals, List.map_congr_left hlower, List.map_id']
  | screaming =>
      have hno : ∀ c ∈ (['_'].intercalate ws).map Char.toUpper,
          isSmall c = false ∧ isFigure c = false :=
        List.forall_mem_map.mpr (forall_intercalate_underscore hws
          (fun _ hc => ⟨isSmall_toUpper hc, isFigure_toUpper hc⟩) (by decide))
      have hlower := forall_intercalate_underscore (p := fun c => c.toUpper.toLower = c) hws
        (fun _ => toLower_toUpper) (by decide)
      obtain ⟨hwords, hcapitals⟩ := passes_of_no_small hno false
      rw [Spelling.join, hwords, hcapitals, List.map_map]
      exact (List.map_congr_left hlower).trans (List.map_id' _)

/-- The passes put nothing but underscores into a text. -/
lemma mem_partWords {inWord : Bool} {cs : List Char} {c : Char} (hc : c ∈ partWords inWord cs) :
    c ∈ cs ∨ c = '_' := by
  fun_induction partWords inWord cs <;> grind

lemma mem_partCapitals {cs : List Char} {c : Char} (hc : c ∈ partCapitals cs) :
    c ∈ cs ∨ c = '_' := by
  fun_induction partCapitals cs <;> grind

/-- In all spellings, a name becomes its words joined by underscores. -/
theorem snakeCase_join (s : Spelling) (hws : ∀ w ∈ ws, IsWord w) :
    snakeCase (s.join ws) = ['_'].intercalate ws := by
  have hascii : ∀ c ∈ partCapitals (partWords false (s.join ws)), c.toNat < 0x80 := by
    intro c hc
    rcases mem_partCapitals hc with hc | rfl
    · rcases mem_partWords hc with hc | rfl
      · exact (s.inName_of_mem hws hc).lt_and_isBlank.1
      · decide
    · decide
  rw [snakeCase, lower_of_ascii hascii, map_toLower_passes s hws]

lemma Spelling.join_ne_nil (s : Spelling) (hne : ws ≠ []) (hws : ∀ w ∈ ws, IsWord w) :
    s.join ws ≠ [] := by
  obtain ⟨w, vs, rfl⟩ := List.exists_cons_of_ne_nil hne
  obtain ⟨c, d, r, rfl, -⟩ := (hws w List.mem_cons_self).exists_cons
  cases s with
  | camel | pascal => exact List.cons_ne_nil _ _
  | snake | screaming => simp [Spelling.join, intercalate_underscore]

/-- A text names words: they are joined in one of the spellings, and blanks may stand around
them. -/
inductive Names (ws : List (List Char)) : String → Prop
  | intro (s : Spelling) (front back : List Char) (front_blank : ∀ c ∈ front, isBlank c = true)
      (back_blank : ∀ c ∈ back, isBlank c = true) :
      Names ws (String.ofList (front ++ s.join ws ++ back))

end

end Naming

open Naming

variable {ws : List (List Char)} {text other : String}

/-- The type that a text names is told by its words. -/
lemma Naming.Names.ofText?_eq (h : Names ws text) (hne : ws ≠ []) (hws : ∀ w ∈ ws, IsWord w) :
    FieldType.ofText? text =
      FieldType.all.find? (·.name == String.ofList (Text.upper (['_'].intercalate ws))) := by
  obtain ⟨s, front, back, hfront, hback⟩ := h
  have hplain : ∀ c ∈ s.join ws, Text.isBlank c = false :=
    fun c hc => (s.inName_of_mem hws hc).lt_and_isBlank.2
  rw [FieldType.ofText?, String.toList_ofList, FieldType.canonical,
    strip_append hfront hback (s.join_ne_nil hne hws) hplain, snakeCase_join s hws]

/-- **All spellings agree**: whether words are joined with capitals, with a capital in front as
well, by underscores, or by underscores in capitals, the name becomes the words joined by
underscores; and whatever blanks stand around it, it names the same type, puts a field in the same
category under every key, and gives the same type of data. -/
theorem spellings_agree (hne : ws ≠ []) (hws : ∀ w ∈ ws, IsWord w) :
    (∀ s : Spelling, snakeCase (s.join ws) = ['_'].intercalate ws) ∧
    (Names ws text → Names ws other →
      FieldType.ofText? text = FieldType.ofText? other ∧
      (∀ key, categoryOf key (some text) = categoryOf key (some other)) ∧
      valueTypeOf (some text) = valueTypeOf (some other)) := by
  refine ⟨fun s => snakeCase_join s hws, fun htext hother => ?_⟩
  have hsame : FieldType.ofText? text = FieldType.ofText? other := by
    rw [htext.ofText?_eq hne hws, hother.ofText?_eq hne hws]
  refine ⟨hsame, fun key => ?_, ?_⟩
  · simp only [categoryOf, Option.bind_some, hsame]
  · simp only [valueTypeOf, Option.bind_some, hsame]

/-! ### A type of two words -/

namespace Sample

/-- The words of the type of references to several items. -/
def manyWords : List (List Char) := ["multi".toList, "reference".toList]

lemma manyWords_isWord : ∀ w ∈ manyWords, IsWord w := by
  simp only [manyWords, List.forall_mem_cons, List.not_mem_nil, false_imp_iff, implies_true,
    and_true]
  exact ⟨⟨by decide, List.all_eq_true.mp (by decide)⟩,
    ⟨by decide, List.all_eq_true.mp (by decide)⟩⟩

end Sample

theorem spellings_agree_sample :
    Sample.manyWords ≠ [] ∧ (∀ w ∈ Sample.manyWords, IsWord w) ∧
      snakeCase "multiReference".toList = "multi_reference".toList ∧
      Names Sample.manyWords " multiReference\t" ∧ Names Sample.manyWords "\u2003MULTI_REFERENCE" ∧
      categoryOf "tags" (some " multiReference\t") =
        categoryOf "tags" (some "\u2003MULTI_REFERENCE") := by
  have hne : Sample.manyWords ≠ [] := List.cons_ne_nil _ _
  have hcamel : Names Sample.manyWords " multiReference\t" :=
    .intro .camel [' '] ['\t'] (List.forall_mem_singleton.mpr (by decide))
      (List.forall_mem_singleton.mpr (by decide))
  have hscreaming : Names Sample.manyWords "\u2003MULTI_REFERENCE" :=
    .intro .screaming ['\u2003'] [] (List.forall_mem_singleton.mpr (by decide))
      (List.forall_mem_nil _)
  have hwords := Sample.manyWords_isWord
  obtain ⟨hjoined, hagree⟩ :=
    @spellings_agree _ " multiReference\t" "\u2003MULTI_REFERENCE" hne hwords
  exact ⟨hne, hwords, hjoined .camel, hcamel, hscreaming, (hagree hcamel hscreaming).2.1 "tags"⟩

end WidgetContracts
