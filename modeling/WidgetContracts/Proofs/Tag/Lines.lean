/-
The lines of tags.

* `Avoids`: a text without certain characters.
* `Tag.ind`: a property of all tags, from the tags inside them.
* `Tag.lines`, `Tag.linesAll`: the lines of a tag and of several tags at an indentation.
* `Tag.render_toList`: the text of a tag is its lines, parted by line feeds.
* `Tag.spaces_prefix_of_mem_lines`: every line is indented at least as far as its tag.
* `Tag.Legible`, `Tag.lf_notMem_of_mem_lines`: a tag whose texts have no line feeds has none in its
  lines; whether a tag is legible can be computed.
-/
import Mathlib.Tactic.Lemma
import WidgetContracts.Tag.Basic

namespace WidgetContracts

/-! ### Joining -/

section

variable {α : Type}

/-- Two lists that are not empty are joined with one separator between them. -/
lemma intercalate_append (sep : List α) {as bs : List (List α)} (ha : as ≠ []) (hb : bs ≠ []) :
    sep.intercalate (as ++ bs) = sep.intercalate as ++ sep ++ sep.intercalate bs := by
  induction as with
  | nil => exact absurd rfl ha
  | cons x r ih =>
      cases r with
      | nil =>
          rw [List.cons_append, List.nil_append, List.intercalate_cons_of_ne_nil hb,
            List.intercalate_singleton]
      | cons y r' =>
          rw [List.cons_append, List.cons_append, List.intercalate_cons_cons, ← List.cons_append,
            ih (by simp), List.intercalate_cons_cons]
          simp only [List.append_assoc]

/-- Blocks that are joined and then joined with one another are joined at once. -/
lemma intercalate_map_intercalate (sep : List α) {bs : List (List (List α))}
    (h : ∀ b ∈ bs, b ≠ []) :
    sep.intercalate (bs.map sep.intercalate) = sep.intercalate bs.flatten := by
  induction bs with
  | nil => rfl
  | cons b r ih =>
      rw [List.forall_mem_cons] at h
      cases r with
      | nil => simp
      | cons c r' =>
          have hne : (c :: r').flatten ≠ [] := by
            have hc := h.2 c List.mem_cons_self
            simp [hc]
          rw [List.map_cons, List.intercalate_cons_of_ne_nil (by simp), ih h.2,
            ← intercalate_append sep h.1 hne]
          rfl

end

/-! ### Texts without certain characters -/

/-- A text without certain characters. -/
def Avoids (text : String) (marks : List Char) : Prop := ∀ c ∈ text.toList, c ∉ marks

instance (text : String) (marks : List Char) : Decidable (Avoids text marks) :=
  -- an instance for all characters would search them all
  List.decidableBAll (fun c => c ∉ marks) text.toList

/-- A text made of two avoids what both avoid. -/
lemma avoids_append {a b : String} {marks : List Char} :
    Avoids (a ++ b) marks ↔ Avoids a marks ∧ Avoids b marks := by
  rw [Avoids, String.toList_append, List.forall_mem_append]
  rfl

/-- Joined texts avoid what the texts and the separator avoid. -/
lemma avoids_intercalate {sep : String} {ts : List String} {marks : List Char}
    (hsep : Avoids sep marks) (hts : ∀ t ∈ ts, Avoids t marks) :
    Avoids (sep.intercalate ts) marks := by
  induction ts with
  | nil => exact fun c hc => absurd hc (by simp)
  | cons t r ih =>
      rw [List.forall_mem_cons] at hts
      cases r with
      | nil => simpa using hts.1
      | cons u r' =>
          rw [String.intercalate_cons_cons, avoids_append, avoids_append]
          exact ⟨⟨hts.1, hsep⟩, ih hts.2⟩

lemma Avoids.of_subset {text : String} {marks marks' : List Char} (h : Avoids text marks)
    (hsub : marks' ⊆ marks) : Avoids text marks' :=
  fun c hc hmem => h c hc (hsub hmem)

lemma Avoids.notMem {text : String} {marks : List Char} (h : Avoids text marks) {c : Char}
    (hc : c ∈ marks) : c ∉ text.toList :=
  fun hmem => h c hmem hc

/-- As many spaces as a number says. -/
def spaces (n : Nat) : List Char := List.replicate n ' '

lemma pad_toList (n : Nat) : (pad n).toList = spaces n := by
  simp [pad, spaces]

lemma avoids_pad (n : Nat) {marks : List Char} (h : ' ' ∉ marks) : Avoids (pad n) marks := by
  intro c hc
  rw [pad_toList] at hc
  exact (List.eq_of_mem_replicate hc).symm ▸ h

namespace Tag

/-! ### Lines of tags -/

/-- The induction principle of tags: a property holds of every tag once it holds of the leaves and
is inherited by a group from the tags inside it. -/
@[elab_as_elim]
theorem ind {P : Tag → Prop} (data : ∀ k v d, P (.data k v d))
    (interactive : ∀ k e d, P (.interactive k e d)) (variant : ∀ k v p d, P (.variant k v p d))
    (group : ∀ k d r b ts, (∀ t ∈ ts, P t) → P (.group k d r b ts)) (t : Tag) : P t :=
  @Tag.rec P (fun ts => ∀ t ∈ ts, P t) data interactive variant group
    (fun t ht => absurd ht (by simp))
    (fun _ _ ihf ihr t ht => by
      rcases List.mem_cons.mp ht with rfl | ht'
      · exact ihf
      · exact ihr t ht')
    t

mutual

/-- The lines of a tag at an indentation. -/
def lines (n : Nat) : Tag → List (List Char)
  | data k v d => [((data k v d).render n).toList]
  | interactive k e d => [((interactive k e d).render n).toList]
  | variant k v p d => [((variant k v p d).render n).toList]
  | group k d r b ts => (groupHeader n k d r b).map String.toList ++ linesAll (n + 4) ts

/-- The lines of tags at an indentation. -/
def linesAll (n : Nat) : List Tag → List (List Char)
  | [] => []
  | t :: r => t.lines n ++ linesAll n r

end

lemma linesAll_eq_flatten (n : Nat) (ts : List Tag) :
    linesAll n ts = (ts.map (lines n)).flatten := by
  induction ts with
  | nil => rfl
  | cons t r ih => rw [linesAll, ih, List.map_cons, List.flatten_cons]

lemma mem_linesAll {n : Nat} {ts : List Tag} {l : List Char} :
    l ∈ linesAll n ts ↔ ∃ t ∈ ts, l ∈ t.lines n := by
  rw [linesAll_eq_flatten, ← List.flatMap_def, List.mem_flatMap]

/-- Every tag has a line. -/
lemma lines_ne_nil (n : Nat) (t : Tag) : t.lines n ≠ [] := by
  cases t <;> simp [lines, groupHeader]

/-- The text of a tag is its lines, parted by line feeds. -/
theorem render_toList (t : Tag) (n : Nat) :
    (t.render n).toList = ['\n'].intercalate (t.lines n) := by
  induction t using ind generalizing n with
  | data k v d => rw [lines, List.intercalate_singleton]
  | interactive k e d => rw [lines, List.intercalate_singleton]
  | variant k v p d => rw [lines, List.intercalate_singleton]
  | group k d r b ts ih =>
      -- every line of the header is a block of its own, and so are the lines of each tag
      have hblocks : ((groupHeader n k d r b).map String.toList ++
          (ts.map fun t => ((t.render (inner n))).toList)) =
          (((groupHeader n k d r b).map fun l => [l.toList]) ++ ts.map (lines (n + 4))).map
            ['\n'].intercalate := by
        rw [List.map_append, List.map_map, List.map_map]
        congr 1
        · simp
        · exact List.map_congr_left fun t ht => ih t ht (n + 4)
      have hne : ∀ l ∈ ((groupHeader n k d r b).map fun l => [l.toList]) ++ ts.map (lines (n + 4)),
          l ≠ [] := by
        rw [List.forall_mem_append]
        constructor
        · simp
        · rw [List.forall_mem_map]
          exact fun t _ => lines_ne_nil (n + 4) t
      rw [render, groupText, renderAll_eq_map, String.toList_intercalate, List.map_append,
        List.map_map]
      change ['\n'].intercalate (_ ++ ts.map fun t => ((t.render (inner n))).toList) = _
      rw [hblocks, intercalate_map_intercalate _ hne, List.flatten_append, lines,
        linesAll_eq_flatten, ← List.flatMap_def, ← List.map_eq_flatMap]

/-- The texts of tags are their lines, parted by line feeds. -/
lemma intercalate_renderAll_toList (ts : List Tag) (n : Nat) :
    ("\n".intercalate (renderAll n ts)).toList = ['\n'].intercalate (linesAll n ts) := by
  have hmap : (renderAll n ts).map String.toList =
      (ts.map (lines n)).map ['\n'].intercalate := by
    rw [renderAll_eq_map, List.map_map, List.map_map]
    exact List.map_congr_left fun t _ => render_toList t n
  have hne : ∀ l ∈ ts.map (lines n), l ≠ [] := by
    rw [List.forall_mem_map]
    exact fun t _ => lines_ne_nil n t
  rw [String.toList_intercalate, hmap, linesAll_eq_flatten, ← intercalate_map_intercalate _ hne]
  rfl

/-! ### Indentation -/

lemma spaces_add (m n : Nat) : spaces (m + n) = spaces m ++ spaces n :=
  List.replicate_append_replicate.symm

/-- A leaf is one line: its indentation, its fields and its description in braces. -/
lemma leafText_toList (n : Nat) (fields : String) (d : Option String) :
    (leafText n fields d).toList =
      spaces n ++ ("- \x7b".toList ++ (fields.toList ++ ((descriptionText d).toList ++ ['}']))) := by
  rw [leafText]
  simp only [String.toList_append, pad_toList, List.append_assoc]
  rfl

/-- The fields of a group, each a line of its own, without their indentation. -/
def groupFields (description : String) (repeated : Bool) (trackBy : Option String) : List String :=
  "type: sub-contract" :: ((if repeated then ["repeated: true"] else []) ++
    ((match given trackBy with
      | some k => ["trackBy: " ++ k]
      | none => []) ++ ["description: " ++ description, "tags:"]))

/-- The header of a group is the line of its key, and its fields, indented by two more spaces. -/
lemma groupHeader_toList (n : Nat) (k d : String) (r : Bool) (b : Option String) :
    (groupHeader n k d r b).map String.toList =
      (spaces n ++ ("- tag: ".toList ++ k.toList)) ::
        (groupFields d r b).map fun f => spaces (n + 2) ++ f.toList := by
  have hfield : ∀ f : String, (pad n ++ ("  " ++ f)).toList = spaces (n + 2) ++ f.toList := by
    intro f
    rw [String.toList_append, String.toList_append, pad_toList, spaces_add, List.append_assoc]
    rfl
  rw [groupHeader, groupFields]
  cases r <;> cases given b <;>
    simp [← hfield, pad_toList, String.append_assoc]

/-- Every line of a tag is indented at least as far as the tag. -/
lemma spaces_prefix_of_mem_lines {t : Tag} {n : Nat} {l : List Char} (h : l ∈ t.lines n) :
    spaces n <+: l := by
  induction t using ind generalizing n with
  | data k v d =>
      rw [lines, List.mem_singleton, render, leafText_toList] at h
      exact ⟨_, h.symm⟩
  | interactive k e d =>
      rw [lines, List.mem_singleton, render, leafText_toList] at h
      exact ⟨_, h.symm⟩
  | variant k v p d =>
      rw [lines, List.mem_singleton, render, leafText_toList] at h
      exact ⟨_, h.symm⟩
  | group k d r b ts ih =>
      rw [lines, groupHeader_toList, List.cons_append, List.mem_cons, List.mem_append,
        List.mem_map] at h
      rcases h with rfl | ⟨f, -, rfl⟩ | h
      · exact List.prefix_append _ _
      · rw [spaces_add, List.append_assoc]
        exact List.prefix_append _ _
      · obtain ⟨t, ht, hl⟩ := mem_linesAll.mp h
        exact (spaces_add n 4 ▸ List.prefix_append _ _).trans (ih t ht hl)

/-! ### Legible tags -/

/-- The characters that end a field of a leaf, and a line. -/
def fieldEnds : List Char := [',', '}', '\n']

/-- Tags whose texts can be told apart in their lines: the keys of leaves hold no comma, the words
for types and phases hold no comma and no brace, and no text holds a line feed. -/
inductive Legible : Tag → Prop
  | data {k v : String} {d : Option String} (key : Avoids k [',', '\n'])
      (valueType : Avoids v fieldEnds) (description : ∀ x ∈ d, Avoids x ['\n']) :
      Legible (data k v d)
  | interactive {k e : String} {d : Option String} (key : Avoids k [',', '\n'])
      (elementType : Avoids e fieldEnds) (description : ∀ x ∈ d, Avoids x ['\n']) :
      Legible (interactive k e d)
  | variant {k v p : String} {d : Option String} (key : Avoids k [',', '\n'])
      (valueType : Avoids v fieldEnds) (phase : Avoids p fieldEnds)
      (description : ∀ x ∈ d, Avoids x ['\n']) : Legible (variant k v p d)
  | group {k d : String} {r : Bool} {b : Option String} {ts : List Tag} (key : Avoids k ['\n'])
      (description : Avoids d ['\n']) (trackBy : ∀ x ∈ b, Avoids x ['\n'])
      (tags : ∀ t ∈ ts, Legible t) : Legible (group k d r b ts)

lemma legible_data_iff {k v : String} {d : Option String} : Legible (.data k v d) ↔
    Avoids k [',', '\n'] ∧ Avoids v fieldEnds ∧ ∀ x ∈ d, Avoids x ['\n'] := by
  constructor
  · rintro ⟨key, valueType, description⟩
    exact ⟨key, valueType, description⟩
  · rintro ⟨key, valueType, description⟩
    exact .data key valueType description

lemma legible_interactive_iff {k e : String} {d : Option String} : Legible (.interactive k e d) ↔
    Avoids k [',', '\n'] ∧ Avoids e fieldEnds ∧ ∀ x ∈ d, Avoids x ['\n'] := by
  constructor
  · rintro (_ | ⟨key, elementType, description⟩)
    exact ⟨key, elementType, description⟩
  · rintro ⟨key, elementType, description⟩
    exact .interactive key elementType description

lemma legible_variant_iff {k v p : String} {d : Option String} : Legible (.variant k v p d) ↔
    Avoids k [',', '\n'] ∧ Avoids v fieldEnds ∧ Avoids p fieldEnds ∧ ∀ x ∈ d, Avoids x ['\n'] := by
  constructor
  · rintro (_ | _ | ⟨key, valueType, phase, description⟩)
    exact ⟨key, valueType, phase, description⟩
  · rintro ⟨key, valueType, phase, description⟩
    exact .variant key valueType phase description

lemma legible_group_iff {k d : String} {r : Bool} {b : Option String} {ts : List Tag} :
    Legible (.group k d r b ts) ↔ Avoids k ['\n'] ∧ Avoids d ['\n'] ∧
      (∀ x ∈ b, Avoids x ['\n']) ∧ ∀ t ∈ ts, Legible t := by
  constructor
  · rintro (_ | _ | _ | ⟨key, description, trackBy, tags⟩)
    exact ⟨key, description, trackBy, tags⟩
  · rintro ⟨key, description, trackBy, tags⟩
    exact .group key description trackBy tags

mutual

/-- Whether a tag is legible can be computed. -/
instance decidableLegible : (t : Tag) → Decidable t.Legible
  | data .. => decidable_of_iff _ legible_data_iff.symm
  | interactive .. => decidable_of_iff _ legible_interactive_iff.symm
  | variant .. => decidable_of_iff _ legible_variant_iff.symm
  | group _ _ _ _ ts =>
    have := decidableAllLegible ts
    decidable_of_iff _ legible_group_iff.symm

/-- Whether tags are legible can be computed. -/
def decidableAllLegible : (ts : List Tag) → Decidable (∀ t ∈ ts, t.Legible)
  | [] => isTrue (by simp)
  | t :: r =>
    have := decidableLegible t
    have := decidableAllLegible r
    decidable_of_iff _ List.forall_mem_cons.symm

end

lemma mem_of_mem_given {d : Option String} {x : String} (h : x ∈ given d) : x ∈ d :=
  (Option.mem_filter_iff.mp h).1

lemma avoids_descriptionText {d : Option String} (h : ∀ x ∈ d, Avoids x ['\n']) :
    Avoids (descriptionText d) ['\n'] := by
  rw [descriptionText]
  cases hd : given d with
  | none => decide
  | some x => exact avoids_append.mpr ⟨by decide, h x (mem_of_mem_given hd)⟩

/-- The line of a leaf stays one where its fields and its description do. -/
lemma avoids_leafText {n : Nat} {fields : String} {d : Option String}
    (hf : Avoids fields ['\n']) (hd : ∀ x ∈ d, Avoids x ['\n']) :
    Avoids (leafText n fields d) ['\n'] := by
  simp only [leafText, avoids_append]
  exact ⟨⟨⟨⟨avoids_pad n (by decide), by decide⟩, hf⟩, avoids_descriptionText hd⟩, by decide⟩

/-- The fields of a group stay on their lines where its texts do. -/
lemma avoids_groupFields {d : String} {r : Bool} {b : Option String} (hd : Avoids d ['\n'])
    (hb : ∀ x ∈ b, Avoids x ['\n']) : ∀ f ∈ groupFields d r b, Avoids f ['\n'] := by
  intro f hf
  simp only [groupFields, List.mem_cons, List.mem_append, List.not_mem_nil, or_false] at hf
  rcases hf with rfl | hf | hf | rfl | rfl
  · decide
  · split at hf
    · obtain rfl := List.mem_singleton.mp hf
      decide
    · cases hf
  · split at hf
    · next k hk =>
      obtain rfl := List.mem_singleton.mp hf
      exact avoids_append.mpr ⟨by decide, hb k (mem_of_mem_given hk)⟩
    · cases hf
  · exact avoids_append.mpr ⟨by decide, hd⟩
  · decide

/-- The lines of a legible tag hold no line feed. -/
lemma lf_notMem_of_mem_lines {t : Tag} (ht : t.Legible) {n : Nat} {l : List Char}
    (hl : l ∈ t.lines n) : '\n' ∉ l := by
  have hsub : ['\n'] ⊆ [',', '\n'] := by decide
  have hsub' : ['\n'] ⊆ fieldEnds := by decide
  induction ht generalizing n with
  | data key valueType description =>
      rw [lines, List.mem_singleton, render] at hl
      subst hl
      refine (avoids_leafText ?_ description).notMem List.mem_cons_self
      simp only [avoids_append]
      exact ⟨⟨⟨by decide, key.of_subset hsub⟩, by decide⟩, valueType.of_subset hsub'⟩
  | interactive key elementType description =>
      rw [lines, List.mem_singleton, render] at hl
      subst hl
      refine (avoids_leafText ?_ description).notMem List.mem_cons_self
      simp only [avoids_append]
      exact ⟨⟨⟨by decide, key.of_subset hsub⟩, by decide⟩, elementType.of_subset hsub'⟩
  | variant key valueType phase description =>
      rw [lines, List.mem_singleton, render] at hl
      subst hl
      refine (avoids_leafText ?_ description).notMem List.mem_cons_self
      simp only [avoids_append]
      exact ⟨⟨⟨⟨⟨by decide, key.of_subset hsub⟩, by decide⟩, valueType.of_subset hsub'⟩, by decide⟩,
        phase.of_subset hsub'⟩
  | group key description trackBy tags ih =>
      have hspaces : ∀ m, '\n' ∉ spaces m := fun m hmem =>
        absurd (List.eq_of_mem_replicate hmem) (by decide)
      rw [lines, groupHeader_toList, List.cons_append, List.mem_cons, List.mem_append,
        List.mem_map] at hl
      rcases hl with rfl | ⟨f, hf, rfl⟩ | hl
      · rw [List.mem_append, List.mem_append, not_or, not_or]
        exact ⟨hspaces n, by decide, key.notMem List.mem_cons_self⟩
      · rw [List.mem_append, not_or]
        exact ⟨hspaces (n + 2),
          (avoids_groupFields description trackBy f hf).notMem List.mem_cons_self⟩
      · obtain ⟨t, ht, hmem⟩ := mem_linesAll.mp hl
        exact ih t ht hmem

end Tag

end WidgetContracts
