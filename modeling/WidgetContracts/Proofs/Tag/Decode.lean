/-
Reading tags back from their lines.

* `after?`, `untilMark`: the pieces of a line.
* `Tag.leaf?`: a leaf from what its line says after the key word.
* `Tag.readFields?`: the fields of a group, two of which may be missing.
* `Tag.readTags?`: tags from lines. The block of a group ends with the first line that is not
  indented further than the group, and the tags inside it begin with the first line of the block
  that is indented further than its fields.
* `Tag.trim`: a tag without empty descriptions, which leave no trace in its lines.
* `Tag.readTags?_linesAll`: legible tags are read back from their lines.
-/
import Mathlib.Data.List.Basic
import Mathlib.Data.List.TakeWhile
import WidgetContracts.Proofs.Tag.Lines

namespace WidgetContracts

/-! ### Pieces of a line -/

/-- What follows a given beginning of a line. -/
def after? (front : String) (line : List Char) : Option (List Char) :=
  front.toList.isPrefixOf? line

@[simp] lemma after?_append (front : String) (rest : List Char) :
    after? front (front.toList ++ rest) = some rest :=
  List.isPrefixOf?_eq_some_iff_append_eq.mpr rfl

/-- The text up to the first of some marks, and the rest. -/
def untilMark (marks : List Char) (cs : List Char) : String × List Char :=
  (String.ofList (cs.takeWhile (· ∉ marks)), cs.dropWhile (· ∉ marks))

lemma untilMark_append {marks : List Char} {text : String} (h : Avoids text marks) {m : Char}
    (hm : m ∈ marks) (rest : List Char) :
    untilMark marks (text.toList ++ m :: rest) = (text, m :: rest) := by
  have htext : ∀ c ∈ text.toList, decide (c ∉ marks) = true :=
    fun c hc => decide_eq_true (h c hc)
  rw [untilMark, List.takeWhile_append_of_pos htext, List.dropWhile_append_of_pos htext,
    List.takeWhile_cons_of_neg (by simpa using hm), List.dropWhile_cons_of_neg (by simpa using hm),
    List.append_nil, String.ofList_toList]

/-- Whether a line is indented by at least as many spaces as a number says. -/
def indented (n : Nat) (line : List Char) : Bool := (spaces n).isPrefixOf line

namespace Tag

/-! ### Leaves -/

/-- The end of a leaf: its description, if it has one. -/
def leafEnd? (cs : List Char) : Option (Option String) :=
  match after? ", description: " cs with
  | some r => if r.getLast? = some '}' then some (some (String.ofList r.dropLast)) else none
  | none => if cs = ['}'] then some none else none

/-- A leaf of data from what follows its key. -/
def dataLeaf? (key : String) (cs : List Char) : Option Tag := do
  let (valueType, r) := untilMark fieldEnds (← after? ", type: data, dataType: " cs)
  return .data key valueType (← leafEnd? r)

/-- An interactive leaf from what follows its key. -/
def interactiveLeaf? (key : String) (cs : List Char) : Option Tag := do
  let (elementType, r) := untilMark fieldEnds (← after? ", type: interactive, elementType: " cs)
  return .interactive key elementType (← leafEnd? r)

/-- A variant leaf from what follows its key. -/
def variantLeaf? (key : String) (cs : List Char) : Option Tag := do
  let (valueType, r) := untilMark fieldEnds (← after? ", type: variant, dataType: " cs)
  let (phase, r) := untilMark fieldEnds (← after? ", phase: " r)
  return .variant key valueType phase (← leafEnd? r)

/-- A leaf from what its line says after the word for its key. -/
def leaf? (cs : List Char) : Option Tag :=
  let (key, r) := untilMark [','] cs
  dataLeaf? key r <|> interactiveLeaf? key r <|> variantLeaf? key r

lemma leafEnd?_descriptionText (d : Option String) :
    leafEnd? ((descriptionText d).toList ++ ['}']) = some (given d) := by
  rw [descriptionText]
  cases given d with
  | none => rfl
  | some x =>
      have h : (", description: " ++ x).toList ++ ['}'] =
          ", description: ".toList ++ (x.toList ++ ['}']) := by
        rw [String.toList_append, List.append_assoc]
      rw [leafEnd?]
      simp only [h, after?_append]
      simp

/-- The end of a leaf begins with one of the marks that end a field. -/
lemma exists_descriptionText_eq_cons (d : Option String) :
    ∃ m r, m ∈ fieldEnds ∧ (descriptionText d).toList ++ ['}'] = m :: r := by
  rw [descriptionText]
  cases given d with
  | none => exact ⟨'}', [], by decide, rfl⟩
  | some x =>
      refine ⟨',', " description: ".toList ++ x.toList ++ ['}'], by decide, ?_⟩
      rw [String.toList_append]
      rfl

section

variable {k v e p : String} {d : Option String}

lemma dataLeaf?_append (hv : Avoids v fieldEnds) :
    dataLeaf? k (", type: data, dataType: ".toList ++
      (v.toList ++ ((descriptionText d).toList ++ ['}']))) = some (.data k v (given d)) := by
  obtain ⟨m, r, hm, hr⟩ := exists_descriptionText_eq_cons d
  have hend := leafEnd?_descriptionText d
  rw [hr] at hend ⊢
  simp only [dataLeaf?, after?_append, untilMark_append hv hm, hend, Option.bind_eq_bind,
    Option.bind_some]
  rfl

lemma interactiveLeaf?_append (he : Avoids e fieldEnds) :
    interactiveLeaf? k (", type: interactive, elementType: ".toList ++
      (e.toList ++ ((descriptionText d).toList ++ ['}']))) = some (.interactive k e (given d)) := by
  obtain ⟨m, r, hm, hr⟩ := exists_descriptionText_eq_cons d
  have hend := leafEnd?_descriptionText d
  rw [hr] at hend ⊢
  simp only [interactiveLeaf?, after?_append, untilMark_append he hm, hend, Option.bind_eq_bind,
    Option.bind_some]
  rfl

lemma variantLeaf?_append (hv : Avoids v fieldEnds) (hp : Avoids p fieldEnds) :
    variantLeaf? k (", type: variant, dataType: ".toList ++ (v.toList ++ (", phase: ".toList ++
      (p.toList ++ ((descriptionText d).toList ++ ['}']))))) =
        some (.variant k v p (given d)) := by
  obtain ⟨m, r, hm, hr⟩ := exists_descriptionText_eq_cons d
  have hend := leafEnd?_descriptionText d
  rw [hr] at hend ⊢
  have hvalue : untilMark fieldEnds (v.toList ++ (", phase: ".toList ++ (p.toList ++ m :: r))) =
      (v, ", phase: ".toList ++ (p.toList ++ m :: r)) :=
    untilMark_append hv (by decide) _
  simp only [variantLeaf?, after?_append, hvalue, untilMark_append hp hm, hend,
    Option.bind_eq_bind, Option.bind_some]
  rfl

/-- A leaf is read from its line, whichever of the three kinds it is. -/
lemma leaf?_data (hk : Avoids k [',']) (hv : Avoids v fieldEnds) :
    leaf? (k.toList ++ (", type: data, dataType: ".toList ++
      (v.toList ++ ((descriptionText d).toList ++ ['}'])))) = some (.data k v (given d)) := by
  have hkey : ∀ r, untilMark [','] (k.toList ++ (", type: data, dataType: ".toList ++ r)) =
      (k, ", type: data, dataType: ".toList ++ r) :=
    fun r => untilMark_append hk List.mem_cons_self _
  rw [leaf?, hkey]
  simp only [dataLeaf?_append hv]
  rfl

lemma leaf?_interactive (hk : Avoids k [',']) (he : Avoids e fieldEnds) :
    leaf? (k.toList ++ (", type: interactive, elementType: ".toList ++
      (e.toList ++ ((descriptionText d).toList ++ ['}'])))) = some (.interactive k e (given d)) := by
  have hkey : ∀ r, untilMark [','] (k.toList ++
      (", type: interactive, elementType: ".toList ++ r)) =
      (k, ", type: interactive, elementType: ".toList ++ r) :=
    fun r => untilMark_append hk List.mem_cons_self _
  have hdata : ∀ r, dataLeaf? k (", type: interactive, elementType: ".toList ++ r) = none :=
    fun _ => rfl
  rw [leaf?, hkey]
  simp only [hdata, interactiveLeaf?_append he]
  rfl

lemma leaf?_variant (hk : Avoids k [',']) (hv : Avoids v fieldEnds) (hp : Avoids p fieldEnds) :
    leaf? (k.toList ++ (", type: variant, dataType: ".toList ++ (v.toList ++ (", phase: ".toList ++
      (p.toList ++ ((descriptionText d).toList ++ ['}'])))))) =
        some (.variant k v p (given d)) := by
  have hkey : ∀ r, untilMark [','] (k.toList ++ (", type: variant, dataType: ".toList ++ r)) =
      (k, ", type: variant, dataType: ".toList ++ r) :=
    fun r => untilMark_append hk List.mem_cons_self _
  have hdata : ∀ r, dataLeaf? k (", type: variant, dataType: ".toList ++ r) = none :=
    fun _ => rfl
  have hinteractive : ∀ r, interactiveLeaf? k (", type: variant, dataType: ".toList ++ r) = none :=
    fun _ => rfl
  rw [leaf?, hkey]
  simp only [hdata, hinteractive, variantLeaf?_append hv hp]
  rfl

end

/-! ### The fields of a group -/

/-- Whether a group is repeated: a field that may be missing. -/
def readRepeated : List (List Char) → Bool × List (List Char)
  | [] => (false, [])
  | l :: r => if l = "repeated: true".toList then (true, r) else (false, l :: r)

/-- What the members of a group are tracked by: a field that may be missing. -/
def readTrackBy : List (List Char) → Option String × List (List Char)
  | [] => (none, [])
  | l :: r =>
    match after? "trackBy: " l with
    | some key => (some (String.ofList key), r)
    | none => (none, l :: r)

/-- The description of a group, after which only its tags follow. -/
def readDescription? : List (List Char) → Option String
  | [l, m] => if m = "tags:".toList then (after? "description: " l).map String.ofList else none
  | _ => none

/-- The description of a group, whether it is repeated, and what its members are tracked by. -/
def readFields? : List (List Char) → Option (String × Bool × Option String)
  | [] => none
  | l :: r =>
    if l = "type: sub-contract".toList then
      let (repeated, r) := readRepeated r
      let (trackBy, r) := readTrackBy r
      (readDescription? r).map fun description => (description, repeated, trackBy)
    else none

/-- The fields of a group are read back, whichever of them are there. -/
lemma readFields?_groupFields (d : String) (r : Bool) (b : Option String) :
    readFields? ((groupFields d r b).map String.toList) = some (d, r, given b) := by
  have hdesc : ∀ m : List Char, m = "tags:".toList →
      readDescription? [("description: " ++ d).toList, m] = some d := by
    rintro m rfl
    rw [readDescription?, if_pos rfl, String.toList_append, after?_append, Option.map_some,
      String.ofList_toList]
  have htrack : ∀ k : String, after? "trackBy: " ("trackBy: " ++ k).toList = some k.toList := by
    intro k
    rw [String.toList_append, after?_append]
  have hnot : after? "trackBy: " ("description: " ++ d).toList = none := by
    rw [String.toList_append]
    rfl
  have hne : ("description: " ++ d).toList ≠ "repeated: true".toList := by
    rw [String.toList_append]
    exact fun h => absurd (List.cons.inj h).1 (by decide)
  have hne' : ∀ k : String, ("trackBy: " ++ k).toList ≠ "repeated: true".toList := by
    intro k
    rw [String.toList_append]
    exact fun h => absurd (List.cons.inj h).1 (by decide)
  cases r <;> cases hb : given b <;>
    simp only [groupFields, hb, List.map_cons, List.map_nil, List.nil_append, List.cons_append,
      if_true, if_false, Bool.false_eq_true, readFields?, readRepeated, hne, hne', readTrackBy,
      htrack, hnot, hdesc _ rfl, String.ofList_toList, Option.map_some]

/-! ### Tags -/

/-- Tags from lines at an indentation: a leaf is one line, and a group is the line of its key with
the block of lines below it that are indented further. -/
def readTags? (n : Nat) : List (List Char) → Option (List Tag)
  | [] => some []
  | l :: r => do
    let item ← (spaces n ++ "- ".toList).isPrefixOf? l
    match after? "\x7btag: " item with
    | some cs =>
      let leaf ← leaf? cs
      let next ← readTags? n r
      return leaf :: next
    | none =>
      let key ← after? "tag: " item
      let block := r.takeWhile (indented (n + 2))
      let fields := block.takeWhile fun m => !indented (n + 4) m
      let (description, repeated, trackBy) ← readFields? (fields.map (List.drop (n + 2)))
      let inside ← readTags? (n + 4) (block.dropWhile fun m => !indented (n + 4) m)
      let next ← readTags? n (r.dropWhile (indented (n + 2)))
      return .group (String.ofList key) description repeated trackBy inside :: next
termination_by lines => lines.length
decreasing_by
  · simp
  · have hinside := List.length_dropWhile_le (fun m => !indented (n + 4) m)
      (r.takeWhile (indented (n + 2)))
    have hblock := (List.takeWhile_prefix (indented (n + 2)) (l := r)).length_le
    simp only [List.length_cons]
    omega
  · have hnext := List.length_dropWhile_le (indented (n + 2)) r
    simp only [List.length_cons]
    omega

mutual

/-- A tag without empty descriptions, which leave no trace in its lines. -/
def trim : Tag → Tag
  | data k v d => data k v (given d)
  | interactive k e d => interactive k e (given d)
  | variant k v p d => variant k v p (given d)
  | group k d r b ts => group k d r (given b) (trimAll ts)

/-- Tags without empty descriptions. -/
def trimAll : List Tag → List Tag
  | [] => []
  | t :: r => t.trim :: trimAll r

end

lemma trimAll_eq_map (ts : List Tag) : trimAll ts = ts.map trim := by
  induction ts with
  | nil => rfl
  | cons t r ih => rw [trimAll, ih, List.map_cons]

lemma trimAll_append (ts us : List Tag) : trimAll (ts ++ us) = trimAll ts ++ trimAll us := by
  rw [trimAll_eq_map, trimAll_eq_map, trimAll_eq_map, List.map_append]

/-! ### Reading back -/

lemma indented_iff {n : Nat} {l : List Char} : indented n l = true ↔ spaces n <+: l := by
  rw [indented, List.isPrefixOf_iff_prefix]

/-- The indentation of a line behind some spaces is what remains of it. -/
lemma indented_add (m k : Nat) (cs : List Char) :
    indented (m + k) (spaces m ++ cs) = indented k cs := by
  rw [Bool.eq_iff_iff, indented_iff, indented_iff, spaces_add, List.prefix_append_right_inj]

section

variable {β : Type} {p : β → Bool}

/-- Members that satisfy a condition, in front of others the first of which does not, are what is
taken while the condition holds. -/
lemma takeWhile_append_of_head {as bs : List β} (ha : ∀ a ∈ as, p a = true)
    (hb : ∀ b ∈ bs.head?, p b = false) : (as ++ bs).takeWhile p = as := by
  rw [List.takeWhile_append_of_pos ha]
  cases bs with
  | nil => simp
  | cons b r => simp [hb b rfl]

lemma dropWhile_append_of_head {as bs : List β} (ha : ∀ a ∈ as, p a = true)
    (hb : ∀ b ∈ bs.head?, p b = false) : (as ++ bs).dropWhile p = bs := by
  rw [List.dropWhile_append_of_pos ha]
  cases bs with
  | nil => rfl
  | cons b r => simp [hb b rfl]

end

/-- The first line of a tag has a hyphen right behind its indentation. -/
lemma exists_lines_eq_cons (t : Tag) (n : Nat) :
    ∃ x r, t.lines n = (spaces n ++ ("- ".toList ++ x)) :: r := by
  cases t with
  | data | interactive | variant =>
      rw [lines, render, leafText_toList]
      exact ⟨_, [], rfl⟩
  | group =>
      rw [lines, groupHeader_toList]
      exact ⟨_, _, rfl⟩

/-- No tag begins deeper than its indentation. -/
lemma indented_head_linesAll (n : Nat) (ts : List Tag) :
    ∀ l ∈ (linesAll n ts).head?, indented (n + 2) l = false := by
  intro l hl
  cases ts with
  | nil => cases hl
  | cons t r =>
      obtain ⟨x, r', ht⟩ := exists_lines_eq_cons t n
      rw [linesAll, ht] at hl
      obtain rfl := Option.some.inj hl
      rw [indented_add]
      rfl

/-- No field of a group begins with a space. -/
lemma indented_groupFields {d : String} {r : Bool} {b : Option String} {f : String}
    (hf : f ∈ groupFields d r b) : indented 2 f.toList = false := by
  have happend : ∀ (front text : String) (c : Char) (cs : List Char),
      front.toList = c :: cs → c ≠ ' ' → indented 2 (front ++ text).toList = false := by
    intro front text c cs hfront hc
    rw [String.toList_append, hfront, List.cons_append, indented]
    simp [spaces, List.replicate_succ, List.isPrefixOf, hc.symm]
  simp only [groupFields, List.mem_cons, List.mem_append, List.not_mem_nil, or_false] at hf
  rcases hf with rfl | hf | hf | rfl | rfl
  · rfl
  · split at hf
    · obtain rfl := List.mem_singleton.mp hf
      rfl
    · cases hf
  · split at hf
    · obtain rfl := List.mem_singleton.mp hf
      exact happend "trackBy: " _ 't' _ rfl (by decide)
    · cases hf
  · exact happend "description: " _ 'd' _ rfl (by decide)
  · rfl

section

variable (k v e p : String) (d : Option String) (n : Nat)

lemma lines_data : (data k v d).lines n = [spaces n ++ ("- ".toList ++ ("\x7btag: ".toList ++
    (k.toList ++ (", type: data, dataType: ".toList ++
      (v.toList ++ ((descriptionText d).toList ++ ['}']))))))] := by
  rw [lines, render, leafText_toList]
  simp only [String.toList_append, List.append_assoc]
  rfl

lemma lines_interactive : (interactive k e d).lines n =
    [spaces n ++ ("- ".toList ++ ("\x7btag: ".toList ++
      (k.toList ++ (", type: interactive, elementType: ".toList ++
        (e.toList ++ ((descriptionText d).toList ++ ['}']))))))] := by
  rw [lines, render, leafText_toList]
  simp only [String.toList_append, List.append_assoc]
  rfl

lemma lines_variant : (variant k v p d).lines n =
    [spaces n ++ ("- ".toList ++ ("\x7btag: ".toList ++
      (k.toList ++ (", type: variant, dataType: ".toList ++ (v.toList ++ (", phase: ".toList ++
        (p.toList ++ ((descriptionText d).toList ++ ['}']))))))))] := by
  rw [lines, render, leafText_toList]
  simp only [String.toList_append, List.append_assoc]
  rfl

end

/-- A line that reads as a leaf is one tag. -/
lemma readTags?_leaf {n : Nat} {cs : List Char} {t : Tag} (h : leaf? cs = some t)
    (rest : List (List Char)) :
    readTags? n ((spaces n ++ ("- ".toList ++ ("\x7btag: ".toList ++ cs))) :: rest) =
      (readTags? n rest).map (t :: ·) := by
  have hitem : (spaces n ++ "- ".toList).isPrefixOf?
      (spaces n ++ ("- ".toList ++ ("\x7btag: ".toList ++ cs))) =
        some ("\x7btag: ".toList ++ cs) :=
    List.isPrefixOf?_eq_some_iff_append_eq.mpr (List.append_assoc _ _ _)
  rw [readTags?, hitem]
  simp only [Option.bind_eq_bind, Option.bind_some, after?_append, h]
  cases readTags? n rest <;> rfl

lemma indented_of_le {m n : Nat} (hmn : m ≤ n) {l : List Char} (h : indented n l = true) :
    indented m l = true := by
  rw [indented_iff] at h ⊢
  obtain ⟨k, rfl⟩ := Nat.exists_eq_add_of_le hmn
  exact (spaces_add m k ▸ List.prefix_append _ _).trans h

/-- The block of a group ends where the indentation does, and its fields end where the tags inside
it begin. -/
lemma readTags?_group {n : Nat} {k d : String} {r : Bool} {b : Option String}
    {inside rest : List (List Char)} {ts : List Tag}
    (hinside : ∀ l ∈ inside, indented (n + 4) l = true)
    (hts : readTags? (n + 4) inside = some ts)
    (hrest : ∀ l ∈ rest.head?, indented (n + 2) l = false) :
    readTags? n ((groupHeader n k d r b).map String.toList ++ inside ++ rest) =
      (readTags? n rest).map (.group k d r (given b) ts :: ·) := by
  rw [groupHeader_toList, List.cons_append, List.cons_append]
  set fields := (groupFields d r b).map fun f => spaces (n + 2) ++ f.toList with hfields
  have hitem : (spaces n ++ "- ".toList).isPrefixOf?
      (spaces n ++ ("- tag: ".toList ++ k.toList)) = some ("tag: ".toList ++ k.toList) :=
    List.isPrefixOf?_eq_some_iff_append_eq.mpr (List.append_assoc _ _ _)
  have hleaf : after? "\x7btag: " ("tag: ".toList ++ k.toList) = none := rfl
  have hblock : ∀ l ∈ fields ++ inside, indented (n + 2) l = true := by
    rw [List.forall_mem_append, hfields, List.forall_mem_map]
    refine ⟨fun f _ => ?_, fun l hl => indented_of_le (by omega) (hinside l hl)⟩
    exact indented_iff.mpr (List.prefix_append _ _)
  have houter : ∀ m ∈ fields, (!indented (n + 4) m) = true := by
    rw [hfields, List.forall_mem_map]
    intro f hf
    rw [show n + 4 = n + 2 + 2 from rfl, indented_add, indented_groupFields hf]
    rfl
  have hinner : ∀ m ∈ inside.head?, (!indented (n + 4) m) = false := by
    intro m hm
    rw [hinside m (List.mem_of_mem_head? hm)]
    rfl
  have hdrop : fields.map (List.drop (n + 2)) = (groupFields d r b).map String.toList := by
    rw [hfields, List.map_map]
    refine List.map_congr_left fun f _ => ?_
    exact List.drop_left' (by simp [spaces])
  rw [readTags?, hitem]
  simp only [Option.bind_eq_bind, Option.bind_some, hleaf, after?_append,
    takeWhile_append_of_head hblock hrest, dropWhile_append_of_head hblock hrest,
    takeWhile_append_of_head houter hinner, dropWhile_append_of_head houter hinner, hdrop,
    readFields?_groupFields, hts, String.ofList_toList]
  cases readTags? n rest <;> rfl

/-- Tags that are each read back in front of any others are read back together. -/
lemma readTags?_linesAll_of_each {ts : List Tag} {n : Nat}
    (h : ∀ t ∈ ts, ∀ rest : List (List Char), (∀ l ∈ rest.head?, indented (n + 2) l = false) →
      readTags? n (t.lines n ++ rest) = (readTags? n rest).map (t.trim :: ·)) :
    readTags? n (linesAll n ts) = some (trimAll ts) := by
  induction ts with
  | nil => rw [linesAll, readTags?, trimAll]
  | cons t r ih =>
      rw [List.forall_mem_cons] at h
      rw [linesAll, h.1 _ (indented_head_linesAll n r), ih h.2, trimAll]
      rfl

/-- A legible tag is read back from its lines, whatever follows it. -/
lemma readTags?_lines_append {t : Tag} (ht : t.Legible) (n : Nat) (rest : List (List Char))
    (hrest : ∀ l ∈ rest.head?, indented (n + 2) l = false) :
    readTags? n (t.lines n ++ rest) = (readTags? n rest).map (t.trim :: ·) := by
  have hsub : [','] ⊆ [',', '\n'] := by decide
  induction ht generalizing n rest with
  | data key valueType description =>
      rw [lines_data, trim]
      exact readTags?_leaf (leaf?_data (key.of_subset hsub) valueType) rest
  | interactive key elementType description =>
      rw [lines_interactive, trim]
      exact readTags?_leaf (leaf?_interactive (key.of_subset hsub) elementType) rest
  | variant key valueType phase description =>
      rw [lines_variant, trim]
      exact readTags?_leaf (leaf?_variant (key.of_subset hsub) valueType phase) rest
  | group key description trackBy tags ih =>
      have hts := readTags?_linesAll_of_each fun t ht => ih t ht (n + 4)
      rw [lines, readTags?_group ?_ hts hrest, trim]
      intro l hl
      obtain ⟨t, -, hmem⟩ := mem_linesAll.mp hl
      exact indented_iff.mpr (spaces_prefix_of_mem_lines hmem)

/-- **Legible tags are read back from their lines**, up to empty descriptions. -/
theorem readTags?_linesAll {ts : List Tag} (h : ∀ t ∈ ts, t.Legible) (n : Nat) :
    readTags? n (linesAll n ts) = some (trimAll ts) :=
  readTags?_linesAll_of_each fun t ht => readTags?_lines_append (h t ht) n

end Tag

end WidgetContracts
