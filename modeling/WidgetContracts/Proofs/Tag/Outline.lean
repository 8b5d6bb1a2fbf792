/-
What the text of a contract says apart from descriptions.

* `linesOf`: the lines of a text; `linesOf_intercalate`: those of texts that are joined.
* `indentOf`, `keyIn?`: how far a line is indented, and the key of the tag that it begins.
* `Redescribed`, `LinesAlike`: two lines differ in a description at their end only, and show the
  same indentation and the same key.
* `Settles`: a beginning of a line that settles what it shows.
* `TextsAlike`: two texts have as many lines, which are alike one by one.
* `Tag.bare`, `Tag.feeds`: a tag without descriptions, and the line feeds in its descriptions.
* `Tag.length_flatMap_lines`: descriptions add a line for each of their line feeds.
* `Tag.Alike`: two tags differ in a description only, which is one line in both or the same.
* `Tag.Alike.lines`: such tags have lines that are alike.
-/
import Mathlib.Data.List.Forall2
import WidgetContracts.Proofs.Tag.Decode

namespace WidgetContracts

/-! ### The lines of a text -/

/-- The lines of a text. -/
def linesOf (cs : List Char) : List (List Char) := cs.splitOn '\n'

/-- Texts that are joined by line feeds have the lines of each. -/
lemma linesOf_intercalate {ls : List (List Char)} (h : ls ≠ []) :
    linesOf (['\n'].intercalate ls) = ls.flatMap linesOf := by
  induction ls with
  | nil => exact absurd rfl h
  | cons l r ih =>
      rw [List.flatMap_cons]
      cases r with
      | nil => rw [List.intercalate_singleton, List.flatMap_nil, List.append_nil]
      | cons m r' =>
          rw [List.intercalate_cons_cons, List.append_assoc, ← ih (List.cons_ne_nil m r')]
          exact List.splitOn_append_cons_self l _

/-- What has no line feed is added to the last line of a text. -/
lemma exists_linesOf_append (cs : List Char) :
    ∃ before last, ∀ x, '\n' ∉ x → linesOf (cs ++ x) = before ++ [last ++ x] := by
  -- a character in front is a line of its own or joins the first line, which may be the last
  induction cs with
  | nil => exact ⟨[], [], fun x hx => List.splitOn_eq_singleton hx⟩
  | cons c r ih =>
      obtain ⟨before, last, hr⟩ := ih
      by_cases hc : c = '\n'
      · subst hc
        refine ⟨[] :: before, last, fun x hx => ?_⟩
        rw [List.cons_append, List.cons_append, ← hr x hx]
        exact List.splitOn_append_cons_self [] _
      · have hsplit : ∀ x, linesOf (c :: r ++ x) = (linesOf (r ++ x)).modifyHead (c :: ·) := by
          intro x
          rw [linesOf, List.cons_append, List.splitOn_cons_eq_if_modifyHead,
            if_neg (by simpa using hc), linesOf]
        cases before with
        | nil =>
            refine ⟨[], c :: last, fun x hx => ?_⟩
            rw [hsplit, hr x hx]
            rfl
        | cons b before =>
            refine ⟨(c :: b) :: before, last, fun x hx => ?_⟩
            rw [hsplit, hr x hx]
            rfl

/-- A text has one more line than line feeds. -/
lemma length_linesOf (cs : List Char) : (linesOf cs).length = cs.count '\n' + 1 := by
  induction cs with
  | nil => rfl
  | cons c r ih =>
      rw [linesOf, List.splitOn_cons_eq_if_modifyHead, List.count_cons]
      split
      · rw [List.length_cons, ← linesOf, ih]
      · rw [List.length_modifyHead, ← linesOf, ih, Nat.add_zero]

/-! ### What a line shows -/

/-- How far a line is indented. -/
def indentOf (l : List Char) : Nat := (l.takeWhile (· == ' ')).length

/-- The key of the tag that a line begins, up to a comma, if it begins one. -/
def keyIn? (l : List Char) : Option (List Char) :=
  let item := l.dropWhile (· == ' ')
  ((after? "- \x7btag: " item).or (after? "- tag: " item)).map (List.takeWhile (· != ','))

/-- Two lines are the same up to a description at their end. -/
inductive Redescribed : List Char → List Char → Prop
  | refl (l : List Char) : Redescribed l l
  | leaf (front : List Char) (d d' : Option String) :
      Redescribed (front ++ ((Tag.descriptionText d).toList ++ ['}']))
        (front ++ ((Tag.descriptionText d').toList ++ ['}']))
  | field (n : Nat) (d d' : String) :
      Redescribed (spaces n ++ ("description: ".toList ++ d.toList))
        (spaces n ++ ("description: ".toList ++ d'.toList))

/-- Two lines are the same up to a description at their end, and are indented alike and begin a tag
with the same key, if they begin one. -/
structure LinesAlike (l l' : List Char) : Prop where
  indent : indentOf l = indentOf l'
  key : keyIn? l = keyIn? l'
  redescribed : Redescribed l l'

lemma LinesAlike.refl (l : List Char) : LinesAlike l l := ⟨rfl, rfl, .refl l⟩

/-- Whether a line begins in a given way is settled by as many of its characters. -/
lemma after?_append_right {front : String} {cs : List Char}
    (h : front.toList.length ≤ cs.length) (x : List Char) :
    after? front (cs ++ x) = (after? front cs).map (· ++ x) := by
  cases hcs : after? front cs with
  | some r =>
      rw [← List.isPrefixOf?_eq_some_iff_append_eq.mp hcs, List.append_assoc, after?_append]
      rfl
  | none =>
      cases hx : after? front (cs ++ x) with
      | none => rfl
      | some r =>
          have hprefix : front.toList <+: cs :=
            List.prefix_of_prefix_length_le
              ⟨r, List.isPrefixOf?_eq_some_iff_append_eq.mp hx⟩ (List.prefix_append cs x) h
          obtain ⟨q, hq⟩ := hprefix
          rw [after?, List.isPrefixOf?_eq_some_iff_append_eq.mpr hq] at hcs
          cases hcs

lemma comma_mem_of_after? {front : String} {cs r : List Char} (h : after? front cs = some r)
    (hlength : front.toList.length ≤ 8) (hcomma : ',' ∈ cs.drop 8) : ',' ∈ r := by
  rw [← List.isPrefixOf?_eq_some_iff_append_eq.mp h, List.drop_append,
    List.drop_eq_nil_of_le hlength, List.nil_append] at hcomma
  exact List.mem_of_mem_drop hcomma

lemma takeWhile_ne_append {c : Char} {cs : List Char} (h : c ∈ cs) (x : List Char) :
    (cs ++ x).takeWhile (· != c) = cs.takeWhile (· != c) := by
  induction cs with
  | nil => cases h
  | cons a r ih =>
      by_cases ha : a = c
      · subst ha
        rw [List.cons_append, List.takeWhile_cons_of_neg (by simp),
          List.takeWhile_cons_of_neg (by simp)]
      · have hr : c ∈ r := (List.mem_cons.mp h).resolve_left (Ne.symm ha)
        have hkeep : ∀ q : List Char, (a :: q).takeWhile (· != c) = a :: q.takeWhile (· != c) :=
          fun q => List.takeWhile_cons_of_pos (bne_iff_ne.mpr ha)
        rw [List.cons_append, hkeep, hkeep, ih hr]

/-- A beginning of a line goes on behind its indentation, and up to a comma behind the place for the
words that begin a tag, which have at most eight characters. -/
def Settles (front : List Char) : Prop := ',' ∈ (front.dropWhile (· == ' ')).drop 8

/-- Such a beginning settles the indentation and the key of a line. -/
lemma Settles.indentOf_append {front : List Char} (h : Settles front) (x : List Char) :
    indentOf (front ++ x) = indentOf front ∧ keyIn? (front ++ x) = keyIn? front := by
  have hlength : 8 ≤ (front.dropWhile (· == ' ')).length := by
    have hpos : 0 < ((front.dropWhile (· == ' ')).drop 8).length := List.length_pos_of_mem h
    rw [List.length_drop] at hpos
    omega
  have hne : front.dropWhile (· == ' ') ≠ [] := by
    intro hnil
    rw [hnil] at hlength
    cases hlength
  have hdrop : (front ++ x).dropWhile (· == ' ') = front.dropWhile (· == ' ') ++ x := by
    rw [List.dropWhile_append, if_neg (by simpa using hne)]
  constructor
  · have hstop : (front.takeWhile (· == ' ')).length ≠ front.length := by
      intro heq
      have hsum : (front.takeWhile (· == ' ') ++ front.dropWhile (· == ' ')).length =
          front.length := by rw [List.takeWhile_append_dropWhile]
      rw [List.length_append, heq] at hsum
      omega
    rw [indentOf, List.takeWhile_append, if_neg hstop, indentOf]
  · have hleaf : ("- \x7btag: ").toList.length ≤ 8 := by decide
    have hgroup : ("- tag: ").toList.length ≤ 8 := by decide
    simp only [keyIn?, hdrop]
    rw [after?_append_right (hleaf.trans hlength), after?_append_right (hgroup.trans hlength),
      ← Option.map_or, Option.map_map]
    refine Option.map_congr fun r hr => takeWhile_ne_append ?_ x
    rcases Option.or_eq_some_iff.mp hr with hr | ⟨-, hr⟩
    · exact comma_mem_of_after? hr hleaf h
    · exact comma_mem_of_after? hr hgroup h

/-- Leaves that agree in front of their descriptions are alike. -/
lemma LinesAlike.leaf {front : List Char} (h : Settles front) (d d' : Option String) :
    LinesAlike (front ++ ((Tag.descriptionText d).toList ++ ['}']))
      (front ++ ((Tag.descriptionText d').toList ++ ['}'])) := by
  obtain ⟨hindent, hkey⟩ := h.indentOf_append ((Tag.descriptionText d).toList ++ ['}'])
  obtain ⟨hindent', hkey'⟩ := h.indentOf_append ((Tag.descriptionText d').toList ++ ['}'])
  exact ⟨hindent.trans hindent'.symm, hkey.trans hkey'.symm, .leaf front d d'⟩

/-- Lines that give descriptions are alike. -/
lemma LinesAlike.field (n : Nat) (d d' : String) :
    LinesAlike (spaces n ++ ("description: ".toList ++ d.toList))
      (spaces n ++ ("description: ".toList ++ d'.toList)) := by
  have hspaces : ∀ c ∈ spaces n, (c == ' ') = true := fun c hc =>
    beq_iff_eq.mpr (List.eq_of_mem_replicate hc)
  have hhead : ∀ e : String, ∀ c ∈ ("description: ".toList ++ e.toList).head?,
      (c == ' ') = false := by
    intro e c hc
    obtain rfl := Option.some.inj hc
    decide
  refine ⟨?_, ?_, .field n d d'⟩
  · rw [indentOf, indentOf, Tag.takeWhile_append_of_head hspaces (hhead d),
      Tag.takeWhile_append_of_head hspaces (hhead d')]
  · simp only [keyIn?, Tag.dropWhile_append_of_head hspaces (hhead _)]
    rfl

/-! ### Texts with lines that are alike -/

/-- Two texts have as many lines, which are alike one by one. -/
def TextsAlike (u u' : List Char) : Prop := List.Forall₂ LinesAlike (linesOf u) (linesOf u')

lemma TextsAlike.refl (u : List Char) : TextsAlike u u :=
  List.forall₂_same.mpr fun l _ => .refl l

lemma TextsAlike.refl_all (us : List (List Char)) : List.Forall₂ TextsAlike us us :=
  List.forall₂_same.mpr fun u _ => .refl u

/-- Texts that are joined from alike texts are alike. -/
lemma TextsAlike.intercalate {us us' : List (List Char)} (h : List.Forall₂ TextsAlike us us')
    (hne : us ≠ []) : TextsAlike (['\n'].intercalate us) (['\n'].intercalate us') := by
  have hne' : us' ≠ [] := by
    rintro rfl
    cases h
    exact hne rfl
  rw [TextsAlike, linesOf_intercalate hne, linesOf_intercalate hne']
  exact List.rel_flatMap h fun _ _ hu => hu

/-- Two descriptions are the same in their effect, or are both one line. -/
def DescriptionsAlike (d d' : Option String) : Prop :=
  given d = given d' ∨ (∀ x ∈ d, Avoids x ['\n']) ∧ ∀ x ∈ d', Avoids x ['\n']

lemma descriptionText_eq_of_given {d d' : Option String} (h : given d = given d') :
    Tag.descriptionText d = Tag.descriptionText d' := by
  rw [Tag.descriptionText, Tag.descriptionText, h]

/-- Texts of leaves with alike descriptions are alike, whatever line feeds their keys have: the part
between the key and the description is on one line with the description, and settles it. -/
lemma TextsAlike.leaf {front middle : List Char} (hline : '\n' ∉ middle)
    (hhead : ∀ c ∈ middle.head?, (c == ' ') = false) (hcomma : ',' ∈ middle.drop 8)
    {d d' : Option String} (hd : DescriptionsAlike d d') :
    TextsAlike (front ++ (middle ++ ((Tag.descriptionText d).toList ++ ['}'])))
      (front ++ (middle ++ ((Tag.descriptionText d').toList ++ ['}']))) := by
  rcases hd with hsame | ⟨hd, hd'⟩
  · rw [descriptionText_eq_of_given hsame]
    exact .refl _
  obtain ⟨before, last, hlines⟩ := exists_linesOf_append front
  have hone : ∀ e : Option String, (∀ x ∈ e, Avoids x ['\n']) →
      '\n' ∉ middle ++ ((Tag.descriptionText e).toList ++ ['}']) := by
    intro e he
    rw [List.mem_append, List.mem_append, not_or, not_or]
    exact ⟨hline, (Tag.avoids_descriptionText he).notMem List.mem_cons_self, by decide⟩
  have hdrop : (last ++ middle).dropWhile (· == ' ') = last.dropWhile (· == ' ') ++ middle := by
    rw [List.dropWhile_append]
    split
    · next hempty =>
      rw [List.isEmpty_iff.mp hempty]
      exact Tag.dropWhile_append_of_head (List.forall_mem_nil _) hhead
    · rfl
  have hsettles : Settles (last ++ middle) := by
    rw [Settles, hdrop, List.drop_append]
    exact List.mem_append_right _ (List.drop_subset_drop_left middle (Nat.sub_le _ _) hcomma)
  rw [TextsAlike, hlines _ (hone d hd), hlines _ (hone d' hd'), ← List.append_assoc last,
    ← List.append_assoc last]
  exact List.rel_append (List.forall₂_same.mpr fun l _ => .refl l)
    (.cons (.leaf hsettles d d') .nil)

/-- One-line descriptions of groups are alike. -/
lemma TextsAlike.field (n : Nat) {d d' : String} (hd : Avoids d ['\n']) (hd' : Avoids d' ['\n']) :
    TextsAlike (spaces n ++ ("description: ".toList ++ d.toList))
      (spaces n ++ ("description: ".toList ++ d'.toList)) := by
  have hspaces : '\n' ∉ spaces n := fun h => absurd (List.eq_of_mem_replicate h) (by decide)
  have hone : ∀ e : String, Avoids e ['\n'] →
      '\n' ∉ spaces n ++ ("description: ".toList ++ e.toList) := by
    intro e he
    rw [List.mem_append, List.mem_append, not_or, not_or]
    exact ⟨hspaces, by decide, he.notMem List.mem_cons_self⟩
  rw [TextsAlike, linesOf, linesOf, List.splitOn_eq_singleton (hone d hd),
    List.splitOn_eq_singleton (hone d' hd')]
  exact .cons (.field n d d') .nil

namespace Tag

/-! ### Tags that differ in a description -/

/-- Two tags differ in a description only, which has the same effect or is one line in both. -/
inductive Alike : Tag → Tag → Prop
  | refl (t : Tag) : Alike t t
  | data {k v : String} {d d' : Option String} (valueType : Avoids v ['\n'])
      (description : DescriptionsAlike d d') : Alike (data k v d) (data k v d')
  | group {k d d' : String} {r : Bool} {b : Option String} {ts : List Tag}
      (left : Avoids d ['\n']) (right : Avoids d' ['\n']) :
      Alike (group k d r b ts) (group k d' r b ts)

/-- Headers of groups that differ in a description of one line are alike. -/
lemma forall₂_groupHeader (n : Nat) (k : String) {d d' : String} (r : Bool) (b : Option String)
    (hd : Avoids d ['\n']) (hd' : Avoids d' ['\n']) :
    List.Forall₂ TextsAlike ((groupHeader n k d r b).map String.toList)
      ((groupHeader n k d' r b).map String.toList) := by
  have hfield : TextsAlike (spaces (n + 2) ++ ("description: " ++ d).toList)
      (spaces (n + 2) ++ ("description: " ++ d').toList) := by
    rw [String.toList_append, String.toList_append]
    exact .field (n + 2) hd hd'
  rw [groupHeader_toList, groupHeader_toList, groupFields, groupFields]
  simp only [List.map_cons, List.map_append]
  exact .cons (.refl _) (.cons (.refl _) (List.rel_append (TextsAlike.refl_all _)
    (List.rel_append (TextsAlike.refl_all _) (.cons hfield (TextsAlike.refl_all _)))))

/-- Tags that differ in a description only have lines that are alike. -/
lemma Alike.lines {t t' : Tag} (h : t.Alike t') (n : Nat) :
    List.Forall₂ TextsAlike (t.lines n) (t'.lines n) := by
  cases h with
  | refl => exact TextsAlike.refl_all _
  | @data k v d d' valueType description =>
      have hline : ∀ e, (Tag.data k v e).lines n =
          [(spaces n ++ "- \x7btag: ".toList ++ k.toList) ++
            ((", type: data, dataType: ".toList ++ v.toList) ++
              ((descriptionText e).toList ++ ['}']))] := by
        intro e
        rw [lines_data]
        simp only [List.append_assoc]
        rfl
      rw [hline, hline]
      refine .cons (.leaf ?_ (by simp) ?_ description) .nil
      · rw [List.mem_append, not_or]
        exact ⟨by decide, valueType.notMem List.mem_cons_self⟩
      · rw [List.drop_append]
        exact List.mem_append_left _ (by decide)
  | @group k d d' r b ts left right =>
      rw [Tag.lines, Tag.lines]
      exact List.rel_append (forall₂_groupHeader n k r b left right) (TextsAlike.refl_all _)

/-- Lists of tags that are alike have lines that are alike. -/
lemma forall₂_linesAll {ts ts' : List Tag} (h : List.Forall₂ Alike ts ts') (n : Nat) :
    List.Forall₂ TextsAlike (linesAll n ts) (linesAll n ts') := by
  induction h with
  | nil => exact .nil
  | cons ht _ ih => exact List.rel_append (ht.lines n) ih

end Tag

/-! ### Line feeds in descriptions -/

lemma given_some {x : String} (h : x ≠ "") : given (some x) = some x := by
  simp [given, h]

/-- The number of line feeds in a text. -/
def lineFeeds (s : String) : Nat := s.toList.count '\n'

lemma lineFeeds_append (s t : String) : lineFeeds (s ++ t) = lineFeeds s + lineFeeds t := by
  rw [lineFeeds, String.toList_append, List.count_append]
  rfl

lemma length_linesOf_toList (s : String) : (linesOf s.toList).length = lineFeeds s + 1 :=
  length_linesOf s.toList

namespace Tag

mutual

/-- A tag without descriptions. -/
def bare : Tag → Tag
  | data k v _ => data k v none
  | interactive k e _ => interactive k e none
  | variant k v p _ => variant k v p none
  | group k _ r b ts => group k "" r b (bareAll ts)

/-- Tags without descriptions. -/
def bareAll : List Tag → List Tag
  | [] => []
  | t :: r => t.bare :: bareAll r

end

mutual

/-- The number of line feeds in the descriptions of a tag and of the tags inside it. -/
def feeds : Tag → Nat
  | data _ _ d | interactive _ _ d | variant _ _ _ d => lineFeeds (d.getD "")
  | group _ d _ _ ts => lineFeeds d + feedsAll ts

/-- The number of line feeds in the descriptions of tags. -/
def feedsAll : List Tag → Nat
  | [] => 0
  | t :: r => t.feeds + feedsAll r

end

lemma bareAll_eq_map (ts : List Tag) : bareAll ts = ts.map bare := by
  induction ts with
  | nil => rfl
  | cons t r ih => rw [bareAll, ih, List.map_cons]

lemma bareAll_append (ts us : List Tag) : bareAll (ts ++ us) = bareAll ts ++ bareAll us := by
  rw [bareAll_eq_map, bareAll_eq_map, bareAll_eq_map, List.map_append]

lemma lineFeeds_descriptionText (d : Option String) :
    lineFeeds (descriptionText d) = lineFeeds (d.getD "") := by
  rw [descriptionText]
  cases d with
  | none => rfl
  | some x =>
      by_cases hx : x = ""
      · subst hx
        rfl
      · have hwords : lineFeeds ", description: " = 0 := rfl
        rw [given_some hx, lineFeeds_append, hwords, Nat.zero_add]
        rfl

/-- The description of a leaf adds a line for each of its line feeds. -/
lemma length_linesOf_leafText (n : Nat) (fields : String) (d : Option String) :
    (linesOf (leafText n fields d).toList).length =
      (linesOf (leafText n fields none).toList).length + lineFeeds (d.getD "") := by
  have hnone : lineFeeds (descriptionText none) = 0 := rfl
  rw [length_linesOf_toList, length_linesOf_toList, leafText, leafText]
  simp only [lineFeeds_append, lineFeeds_descriptionText d, hnone]
  omega

/-- The description of a group adds a line for each of its line feeds. -/
lemma length_linesOf_groupHeader (n : Nat) (k d : String) (r : Bool) (b : Option String) :
    (((groupHeader n k d r b).map String.toList).flatMap linesOf).length =
      (((groupHeader n k "" r b).map String.toList).flatMap linesOf).length + lineFeeds d := by
  have hempty : lineFeeds "" = 0 := rfl
  simp only [groupHeader, List.map_append, List.map_cons, List.map_nil, List.flatMap_append,
    List.flatMap_cons, List.flatMap_nil, List.length_append, length_linesOf_toList,
    lineFeeds_append, hempty]
  omega

/-- The lines of tags are those without descriptions, and one more for each line feed in them, if so
are those of each tag. -/
lemma length_flatMap_linesAll {n : Nat} {ts : List Tag} (h : ∀ t ∈ ts,
    ((t.lines n).flatMap linesOf).length = ((t.bare.lines n).flatMap linesOf).length + t.feeds) :
    ((linesAll n ts).flatMap linesOf).length =
      ((linesAll n (bareAll ts)).flatMap linesOf).length + feedsAll ts := by
  induction ts with
  | nil => rfl
  | cons t r ih =>
      rw [List.forall_mem_cons] at h
      simp only [linesAll, bareAll, feedsAll, List.flatMap_append, List.length_append, h.1, ih h.2]
      omega

/-- The lines of a tag are those without descriptions, and one more for each line feed in them. -/
lemma length_flatMap_lines (t : Tag) (n : Nat) :
    ((t.lines n).flatMap linesOf).length = ((t.bare.lines n).flatMap linesOf).length + t.feeds := by
  induction t using ind generalizing n with
  | data k v d =>
      simp only [lines, bare, feeds, render, List.flatMap_cons, List.flatMap_nil, List.append_nil]
      exact length_linesOf_leafText n _ d
  | interactive k e d =>
      simp only [lines, bare, feeds, render, List.flatMap_cons, List.flatMap_nil, List.append_nil]
      exact length_linesOf_leafText n _ d
  | variant k v p d =>
      simp only [lines, bare, feeds, render, List.flatMap_cons, List.flatMap_nil, List.append_nil]
      exact length_linesOf_leafText n _ d
  | group k d r b ts ih =>
      rw [lines, bare, lines, feeds, List.flatMap_append, List.flatMap_append, List.length_append,
        List.length_append, length_linesOf_groupHeader,
        length_flatMap_linesAll fun t ht => ih t ht (n + 4)]
      omega

end Tag

end WidgetContracts
