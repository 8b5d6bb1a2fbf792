/-
Tags at different indentations.

* `moved`, `shifted`: lines, and a text line by line, with spaces put in front.
* `Tag.lines_add`, `Tag.linesAll_add`: a further indentation moves each line of a tag by as much.
* `Tag.Unbroken`: a tag whose lines hold no line feeds, so that they are the lines of its text.
* `Tag.unbroken_data`, `Tag.unbroken_group`: when tags are of this kind.
* `Tag.render_add`, `Tag.renderAll_add`: the texts of such tags are shifted by a further indentation.
* `Tag.Inside`: tags at some depth inside other tags; `Tag.Inside.lines_infix`: their lines stand
  together among those of the others.
-/
import WidgetContracts.Proofs.Tag.Outline

namespace WidgetContracts

/-- Lines with spaces in front of each. -/
def moved (n : Nat) (ls : List (List Char)) : List (List Char) := ls.map (spaces n ++ ·)

/-- A text with spaces put before each of its lines. -/
def shifted (n : Nat) (text : String) : String :=
  String.ofList (['\n'].intercalate (moved n (linesOf text.toList)))

lemma moved_append (n : Nat) (ls ms : List (List Char)) :
    moved n (ls ++ ms) = moved n ls ++ moved n ms := List.map_append

lemma spaces_add_append (m n : Nat) (cs : List Char) :
    spaces (m + n) ++ cs = spaces n ++ (spaces m ++ cs) := by
  rw [Nat.add_comm, Tag.spaces_add, List.append_assoc]

lemma lf_notMem_spaces (n : Nat) : '\n' ∉ spaces n :=
  fun h => absurd (List.eq_of_mem_replicate h) (by decide)

namespace Tag

/-! ### Lines -/

lemma leafText_add (m n : Nat) (fields : String) (d : Option String) :
    (leafText (m + n : Nat) fields d).toList = spaces n ++ (leafText m fields d).toList := by
  rw [leafText_toList, leafText_toList, spaces_add_append]

lemma groupHeader_add (m n : Nat) (k d : String) (r : Bool) (b : Option String) :
    (groupHeader (m + n : Nat) k d r b).map String.toList =
      moved n ((groupHeader m k d r b).map String.toList) := by
  have hfields : ∀ fs : List String, (fs.map fun f => spaces (m + n + 2) ++ f.toList) =
      moved n (fs.map fun f => spaces (m + 2) ++ f.toList) := by
    intro fs
    rw [moved, List.map_map]
    refine List.map_congr_left fun f _ => ?_
    rw [Nat.add_right_comm, spaces_add_append]
    rfl
  rw [groupHeader_toList, groupHeader_toList, hfields, spaces_add_append]
  rfl

/-- A further indentation moves each line of a tag by as much. -/
lemma lines_add (t : Tag) (m n : Nat) : t.lines (m + n) = moved n (t.lines m) := by
  induction t using ind generalizing m with
  | data k v d | interactive k e d | variant k v p d =>
      rw [lines, lines, render, render, leafText_add]
      rfl
  | group k d r b ts ih =>
      have htags : linesAll (m + n + 4) ts = moved n (linesAll (m + 4) ts) := by
        rw [linesAll_eq_flatten, linesAll_eq_flatten, moved, List.map_flatten, List.map_map,
          Nat.add_right_comm]
        exact congrArg List.flatten (List.map_congr_left fun t ht => ih t ht (m + 4))
      rw [lines, lines, groupHeader_add, htags, moved_append]

lemma linesAll_add (ts : List Tag) (m n : Nat) :
    linesAll (m + n) ts = moved n (linesAll m ts) := by
  rw [linesAll_eq_flatten, linesAll_eq_flatten, moved, List.map_flatten, List.map_map]
  exact congrArg List.flatten (List.map_congr_left fun t _ => lines_add t m n)

/-! ### Tags without line feeds -/

/-- A tag whose lines hold no line feeds. -/
def Unbroken (t : Tag) : Prop := ∀ l ∈ t.lines 0, '\n' ∉ l

/-- The indentation adds no line feeds. -/
lemma Unbroken.lf_notMem {t : Tag} (h : t.Unbroken) {n : Nat} {l : List Char}
    (hl : l ∈ t.lines n) : '\n' ∉ l := by
  rw [← Nat.zero_add n, lines_add] at hl
  obtain ⟨l', hl', rfl⟩ := List.mem_map.mp hl
  rw [List.mem_append, not_or]
  exact ⟨lf_notMem_spaces n, h l' hl'⟩

lemma unbroken_leaf {fields : String} {d : Option String} (hfields : Avoids fields ['\n'])
    (hd : ∀ x ∈ d, Avoids x ['\n']) :
    ∀ l ∈ [(leafText (0 : Nat) fields d).toList], '\n' ∉ l :=
  List.forall_mem_singleton.mpr ((avoids_leafText hfields hd).notMem List.mem_cons_self)

lemma unbroken_data {k v : String} {d : Option String} (hk : Avoids k ['\n'])
    (hv : Avoids v ['\n']) (hd : ∀ x ∈ d, Avoids x ['\n']) : (data k v d).Unbroken := by
  refine unbroken_leaf ?_ hd
  simp only [avoids_append]
  exact ⟨⟨⟨by decide, hk⟩, by decide⟩, hv⟩

lemma unbroken_group {k d : String} {r : Bool} {b : Option String} {ts : List Tag}
    (hk : Avoids k ['\n']) (hd : Avoids d ['\n']) (hb : ∀ x ∈ b, Avoids x ['\n'])
    (hts : ∀ t ∈ ts, t.Unbroken) : (group k d r b ts).Unbroken := by
  intro l hl
  rw [lines, groupHeader_toList, List.cons_append, List.mem_cons, List.mem_append,
    List.mem_map] at hl
  rcases hl with rfl | ⟨f, hf, rfl⟩ | hl
  · rw [List.mem_append, List.mem_append, not_or, not_or]
    exact ⟨lf_notMem_spaces 0, by decide, hk.notMem List.mem_cons_self⟩
  · rw [List.mem_append, not_or]
    exact ⟨lf_notMem_spaces 2, (avoids_groupFields hd hb f hf).notMem List.mem_cons_self⟩
  · obtain ⟨t, ht, hmem⟩ := mem_linesAll.mp hl
    exact (hts t ht).lf_notMem hmem

/-- A legible tag is unbroken. -/
lemma Legible.unbroken {t : Tag} (h : t.Legible) : t.Unbroken :=
  fun _ hl => lf_notMem_of_mem_lines h hl

/-! ### Texts -/

/-- The lines of the text of an unbroken tag. -/
lemma Unbroken.linesOf_render {t : Tag} (h : t.Unbroken) (n : Nat) :
    linesOf (t.render n).toList = t.lines n := by
  rw [render_toList, linesOf]
  exact List.splitOn_intercalate '\n' (fun l hl => h.lf_notMem hl) (lines_ne_nil n t)

/-- The lines of the texts of unbroken tags that are joined. -/
lemma linesOf_renderAll {ts : List Tag} (h : ∀ t ∈ ts, t.Unbroken) (hne : ts ≠ []) (n : Nat) :
    linesOf ("\n".intercalate (renderAll n ts)).toList = linesAll n ts := by
  have hlines : ∀ l ∈ linesAll n ts, '\n' ∉ l := by
    intro l hl
    obtain ⟨t, ht, hmem⟩ := mem_linesAll.mp hl
    exact (h t ht).lf_notMem hmem
  have hnil : linesAll n ts ≠ [] := by
    obtain ⟨t, ht⟩ := List.exists_mem_of_ne_nil _ hne
    obtain ⟨l, hl⟩ := List.exists_mem_of_ne_nil _ (lines_ne_nil n t)
    exact List.ne_nil_of_mem (mem_linesAll.mpr ⟨t, ht, hl⟩)
  rw [intercalate_renderAll_toList, linesOf]
  exact List.splitOn_intercalate '\n' hlines hnil

/-- A further indentation shifts the text of an unbroken tag. -/
lemma Unbroken.render_add {t : Tag} (h : t.Unbroken) (m n : Nat) :
    t.render (m + n : Nat) = shifted n (t.render m) := by
  rw [shifted, h.linesOf_render, ← lines_add, ← render_toList, String.ofList_toList]

/-- A further indentation shifts the texts of unbroken tags. -/
lemma renderAll_add {ts : List Tag} (h : ∀ t ∈ ts, t.Unbroken) (m n : Nat) :
    renderAll (m + n : Nat) ts = (renderAll m ts).map (shifted n) := by
  rw [renderAll_eq_map, renderAll_eq_map, List.map_map]
  exact List.map_congr_left fun t ht => (h t ht).render_add m n

/-! ### Tags inside tags -/

/-- A tag stands `k` levels inside given tags. -/
inductive Inside : List Tag → Nat → Tag → Prop
  | here {ts : List Tag} {t : Tag} (h : t ∈ ts) : Inside ts 0 t
  | deeper {ts : List Tag} {k : Nat} {t u : Tag} (h : t ∈ ts) (inside : Inside t.children k u) :
      Inside ts (k + 1) u

/-- The lines of the tags inside a tag end its own lines, indented by four more spaces. -/
lemma linesAll_children_suffix (t : Tag) (n : Nat) : linesAll (n + 4) t.children <:+ t.lines n := by
  cases t with
  | data | interactive | variant => exact List.nil_suffix
  | group k d r b ts => exact List.suffix_append _ _

/-- The lines of a tag stand together among those of the tags inside which it is. -/
lemma Inside.lines_infix {ts : List Tag} {k : Nat} {u : Tag} (h : Inside ts k u) (n : Nat) :
    u.lines (n + 4 * k) <:+: linesAll n ts := by
  have hmem : ∀ {ts : List Tag} {t : Tag} (n : Nat), t ∈ ts → t.lines n <:+: linesAll n ts := by
    intro ts t n ht
    rw [linesAll_eq_flatten]
    exact List.infix_of_mem_flatten (List.mem_map_of_mem ht)
  induction h generalizing n with
  | here ht => exact hmem n ht
  | @deeper ts k t u ht _ ih =>
      have hinside : u.lines (n + 4 * (k + 1)) <:+: linesAll (n + 4) t.children := by
        have := ih (n + 4)
        rwa [Nat.add_assoc, Nat.add_comm 4, ← Nat.mul_succ] at this
      exact hinside.trans ((linesAll_children_suffix t n).isInfix.trans (hmem n ht))

end Tag

end WidgetContracts
