/-
Readers do not see how the collections of a document are shared.

* `EntriesLookAlike.lookup`: what stands under the first present name looks alike.
* `optional_of_looksAlike`, `required_of_looksAlike`, `listOrNull_of_looksLike`: what is read from
  fields and lists is read from what looks like them.
* `Directive.readTo`: reading a directive without a watch for one that stands inside itself.
* `Directive.readIn_of_readTo`: the watch refuses nothing that could be read without it.
* `Directive.read_of_looksLike`, `Entry.read_of_looksLike`: what is read as a directive, or as an
  entry, is read as the same from whatever looks like it.
-/
import WidgetContracts.Proofs.Document.Unfolding
import WidgetContracts.Proofs.Reading.Written

namespace WidgetContracts

open Reading

variable {t u : Shared} {v w : Value}

/-! ### Fields -/

namespace EntriesLookAlike

variable {es fs : List (Scalar × Value)}

/-- Under a key stands what looks alike, or nothing in both. -/
lemma find? (h : EntriesLookAlike t u es fs) (key : String) :
    Option.Rel (LooksLike t u) (find? key es) (find? key fs) := by
  induction h with
  | nil => exact .none
  | cons hpq _ ih =>
      obtain ⟨hkey, hlooks⟩ := hpq
      rw [WidgetContracts.find?, WidgetContracts.find?, ← hkey]
      split
      · exact .some hlooks
      · exact ih

/-- Under the first name that is present stands what looks alike, or none is present in both. -/
lemma lookup (h : EntriesLookAlike t u es fs) (names : List String) :
    Option.Rel (fun p q => p.1 = q.1 ∧ LooksLike t u p.2 q.2) (lookup names es)
      (lookup names fs) := by
  induction names with
  | nil => exact .none
  | cons name names ih =>
      rw [Reading.lookup, List.findSome?_cons, Reading.lookup, List.findSome?_cons]
      have hname := h.find? name
      generalize WidgetContracts.find? name es = x at hname
      generalize WidgetContracts.find? name fs = y at hname
      cases hname with
      | none => exact ih
      | some hlooks => exact .some ⟨rfl, hlooks⟩

end EntriesLookAlike

section

variable {α : Type} {r r' : Value → Checked α} {es fs : List (Scalar × Value)}
  {names : List String} {absent a : α}

/-- What is read from a field that may be absent is read from entries that look alike. -/
lemma optional_of_looksAlike (h : EntriesLookAlike t u es fs)
    (hr : ∀ v w, LooksLike t u v w → r v = .ok a → r' w = .ok a)
    (hread : optional names absent r es = .ok a) : optional names absent r' fs = .ok a := by
  rw [Reading.optional] at hread ⊢
  have hlookup := h.lookup names
  generalize lookup names es = x at hlookup hread
  generalize lookup names fs = y at hlookup
  cases hlookup with
  | none => exact hread
  | some hpq => exact Checked.under_eq_ok_iff.mpr (hr _ _ hpq.2 (Checked.under_eq_ok_iff.mp hread))

/-- What is read from a field that must be present is read from entries that look alike. -/
lemma required_of_looksAlike (h : EntriesLookAlike t u es fs)
    (hr : ∀ v w, LooksLike t u v w → r v = .ok a → r' w = .ok a)
    (hread : required names r es = .ok a) : required names r' fs = .ok a := by
  rw [required] at hread ⊢
  have hlookup := h.lookup names
  generalize lookup names es = x at hlookup hread
  generalize lookup names fs = y at hlookup
  cases hlookup with
  | none => cases hread
  | some hpq => exact Checked.under_eq_ok_iff.mpr (hr _ _ hpq.2 (Checked.under_eq_ok_iff.mp hread))

/-! ### Values -/

lemma text_of_looksLike {s : String} (v w : Value) (h : LooksLike t u v w) (hread : text v = .ok s) :
    text w = .ok s := by
  match v with
  | .scalar _ => rwa [h.eq_scalar]

lemma flag_of_looksLike {b : Bool} (v w : Value) (h : LooksLike t u v w) (hread : flag v = .ok b) :
    flag w = .ok b := by
  match v with
  | .scalar _ => rwa [h.eq_scalar]

lemma Mode.read_of_looksLike {m : Mode} (v w : Value) (h : LooksLike t u v w)
    (hread : Mode.read v = .ok m) : Mode.read w = .ok m := by
  match v with
  | .scalar _ => rwa [h.eq_scalar]

/-- What may be null is read as the same from what looks like it. -/
lemma nullable_of_looksLike (hr : ∀ a v w, LooksLike t u v w → r v = .ok a → r' w = .ok a)
    {o : Option α} (v w : Value) (h : LooksLike t u v w) (hread : nullable r v = .ok o) :
    nullable r' w = .ok o := by
  rw [nullable, ← h.isNull_eq]
  rw [nullable] at hread
  split at hread
  · rwa [if_pos ‹_›]
  · obtain ⟨a, ha, rfl⟩ := Checked.map_eq_ok_iff.mp hread
    rw [if_neg ‹_›, hr a v w h ha]
    rfl

/-- Members are read as the same from what looks like them. -/
lemma members_of_looksAlike {vs ws : List Value} (h : List.Forall₂ (LooksLike t u) vs ws) :
    ∀ {as : List α} (i : Nat), (∀ a ∈ as, ∀ v w, LooksLike t u v w → r v = .ok a → r' w = .ok a) →
      members r i vs = .ok as → members r' i ws = .ok as := by
  simp only [members_eq_ok_iff]
  induction h with
  | nil =>
      intro as _ _ hread
      rwa [List.forall₂_nil_left_iff] at hread ⊢
  | cons hvw _ ih =>
      intro as i hr hread
      obtain ⟨a, as', ha, has, rfl⟩ := List.forall₂_cons_left_iff.mp hread
      rw [List.forall_mem_cons] at hr
      exact .cons (hr.1 _ _ hvw ha) (ih i hr.2 has)

/-- A list is read as the same from what looks like it. -/
lemma listOrNull_of_looksLike {as : List α}
    (hr : ∀ a ∈ as, ∀ v w, LooksLike t u v w → r v = .ok a → r' w = .ok a)
    (v w : Value) (h : LooksLike t u v w) (hread : listOrNull t r v = .ok as) :
    listOrNull u r' w = .ok as := by
  rw [listOrNull, ← h.isNull_eq]
  rw [listOrNull] at hread
  split at hread
  · rwa [if_pos ‹_›]
  · rw [if_neg ‹_›]
    rw [listOf] at hread
    split at hread
    · next vs hvs =>
        obtain ⟨ws, hws, hlooks⟩ := h.exists_members hvs
        rw [listOf, hws]
        exact members_of_looksAlike hlooks 0 hr hread
    · cases hread

end

/-! ### Directives -/

namespace Directive

/-- Reads a directive inside which directives may still stand `left` deep, without a watch for one
that stands inside itself. -/
def readTo (t : Shared) : (left : Nat) → Value → Checked Directive
  | 0, _ => .fail .tooDeep
  | left + 1, v =>
    match v.actual t with
    | .map entries =>
      ((required ["fieldName", "field_name"] text entries).both <|
        (optional ["mode"] .link Mode.read entries).both <|
        (optional nestedNames [] (listOrNull t (readTo t left)) entries)).map
        fun (f, m, n) => ⟨f, m, n⟩
    | _ => .fail (.notModel modelName)

/-- A value is a mapping with the fields of a directive, where `r` reads the nested ones. -/
def StandsIn (t : Shared) (r : Value → Checked Directive) (v : Value) (d : Directive) : Prop :=
  ∃ entries, v.actual t = .map entries ∧
    required ["fieldName", "field_name"] text entries = .ok d.fieldName ∧
    optional ["mode"] .link Mode.read entries = .ok d.mode ∧
    optional nestedNames [] (listOrNull t r) entries = .ok d.nested

/-- The fields of a directive stand also in what looks like its mapping, for a reader of the nested
ones that reads them there. -/
lemma StandsIn.of_looksLike {r r' : Value → Checked Directive} {d : Directive}
    (hstands : StandsIn t r v d) (h : LooksLike t u v w)
    (hr : ∀ e ∈ d.nested, ∀ v w, LooksLike t u v w → r v = .ok e → r' w = .ok e) :
    StandsIn u r' w d := by
  obtain ⟨entries, hactual, hname, hmode, hnested⟩ := hstands
  obtain ⟨entries', hactual', hentries⟩ := h.exists_map hactual
  exact ⟨entries', hactual', required_of_looksAlike hentries text_of_looksLike hname,
    optional_of_looksAlike hentries Mode.read_of_looksLike hmode,
    optional_of_looksAlike hentries (listOrNull_of_looksLike hr) hnested⟩

variable {d d' : Directive} {left left' : Nat} {around : List Nat}

lemma readTo_succ_eq_ok_iff :
    readTo t (left + 1) v = .ok d ↔ StandsIn t (readTo t left) v d := by
  rw [readTo, StandsIn]
  cases hactual : v.actual t with
  | map entries =>
      obtain ⟨fieldName, mode, nested⟩ := d
      simp [Checked.map_eq_ok_iff, Checked.both_eq_ok_iff]
  | scalar | list | set | pair | shared => simp [Checked.fail]

/-- Without the watch, what is read is read from whatever looks like it, also where directives may
stand deeper. -/
lemma readTo_of_looksLike (h : LooksLike t u v w) (hleft : left ≤ left')
    (hread : readTo t left v = .ok d) : readTo u left' w = .ok d := by
  induction left generalizing left' v w d with
  | zero => cases hread
  | succ left ih =>
      cases left' with
      | zero => cases hleft
      | succ left' =>
          rw [readTo_succ_eq_ok_iff] at hread ⊢
          exact hread.of_looksLike h fun _ _ _ _ h' => ih h' (Nat.le_of_succ_le_succ hleft)

/-- Only one directive is read from a value, however deep directives may stand. -/
lemma readTo_unique (h : readTo t left v = .ok d) (h' : readTo t left' v = .ok d') : d = d' := by
  have hd := readTo_of_looksLike (.refl t v) (Nat.le_max_left left left') h
  have hd' := readTo_of_looksLike (.refl t v) (Nat.le_max_right left left') h'
  exact Except.ok.inj (hd.symm.trans hd')

/-- What is read with the watch is read without it from whatever looks like it. -/
lemma readTo_of_readIn (h : LooksLike t u v w) (hread : readIn t left around v = .ok d) :
    readTo u left w = .ok d := by
  induction left generalizing around v w d with
  | zero => cases hread
  | succ left ih =>
      obtain ⟨-, hstands⟩ := readIn_succ_eq_ok_iff.mp hread
      have hstands : StandsIn t (readIn t left (v.numbers ++ around)) v d := hstands
      exact readTo_succ_eq_ok_iff.mpr (hstands.of_looksLike h fun _ _ _ _ h' => ih h')

lemma depth_lt_of_mem_nested {e : Directive} (h : e ∈ d.nested) : e.depth < d.depth := by
  rw [depth_eq d]
  exact Nat.lt_succ_of_le (depth_le_of_mem h)

/-- The watch refuses nothing that is read without it: a directive is read inside others that are
all deeper, so it is none of them. -/
lemma readIn_of_readTo (h : LooksLike t u v w) (hread : readTo t left v = .ok d)
    (hdeeper : ∀ i ∈ around, ∀ left' d', readTo u left' (.shared i) = .ok d' → d.depth < d'.depth) :
    readIn u left around w = .ok d := by
  induction left generalizing around v w d with
  | zero => cases hread
  | succ left ih =>
      have hw : ∀ i ∈ w.numbers, w = .shared i := by
        intro i hi
        match w with
        | .shared _ => rw [List.mem_singleton.mp hi]
      have hthere : readTo u (left + 1) w = .ok d := readTo_of_looksLike h (Nat.le_refl _) hread
      have hfresh : w.numbers.any around.contains = false := by
        rw [List.any_eq_false]
        intro i hi hmem
        have hshared := hthere
        rw [hw i hi] at hshared
        exact Nat.lt_irrefl _ (hdeeper i (List.contains_iff_mem.mp hmem) _ d hshared)
      have hstands := readTo_succ_eq_ok_iff.mp hread
      refine readIn_succ_eq_ok_iff.mpr ⟨hfresh, hstands.of_looksLike h ?_⟩
      intro e he v' w' h' he'
      refine ih h' he' fun i hi left' d' hd' => ?_
      have hlt := depth_lt_of_mem_nested he
      rcases List.mem_append.mp hi with hi | hi
      · -- the directive itself is the nearest around those that it nests
        rw [← hw i hi] at hd'
        rwa [← readTo_unique hthere hd']
      · exact Nat.lt_trans hlt (hdeeper i hi left' d' hd')

/-- What is read as a directive is read as the same from whatever looks like it. -/
lemma read_of_looksLike (v w : Value) (h : LooksLike t u v w) (hread : read t v = .ok d) :
    read u w = .ok d :=
  readIn_of_readTo (.refl u w) (readTo_of_readIn h hread) (fun _ hi => absurd hi List.not_mem_nil)

end Directive

/-! ### Entries -/

lemma CategoryKeys.read_of_looksLike (c : CategoryKeys) (v w : Value) (h : LooksLike t u v w)
    (hread : read t v = .ok c) : read u w = .ok c := by
  rw [read] at hread
  split at hread
  · next entries hactual =>
      obtain ⟨entries', hactual', hentries⟩ := h.exists_map hactual
      simp only [Checked.map_eq_ok_iff, Checked.both_eq_ok_iff] at hread
      obtain ⟨p, ⟨hreference, hslug⟩, rfl⟩ := hread
      rw [read, hactual']
      simp only [Checked.map_eq_ok_iff, Checked.both_eq_ok_iff]
      exact ⟨p, ⟨optional_of_looksAlike hentries text_of_looksLike hreference,
        optional_of_looksAlike hentries text_of_looksLike hslug⟩, rfl⟩
  · cases hread

lemma Components.read_of_looksLike (c : Components) (v w : Value) (h : LooksLike t u v w)
    (hread : read t v = .ok c) : read u w = .ok c := by
  rw [read] at hread
  split at hread
  · next entries hactual =>
      obtain ⟨entries', hactual', hentries⟩ := h.exists_map hactual
      simp only [Checked.map_eq_ok_iff, Checked.both_eq_ok_iff] at hread
      obtain ⟨p, ⟨h₁, h₂, h₃, h₄, h₅⟩, rfl⟩ := hread
      have hflag : ∀ {names : List String} {b : Bool},
          optional names false flag entries = .ok b → optional names false flag entries' = .ok b :=
        optional_of_looksAlike hentries flag_of_looksLike
      rw [read, hactual']
      simp only [Checked.map_eq_ok_iff, Checked.both_eq_ok_iff]
      exact ⟨p, ⟨hflag h₁, hflag h₂, hflag h₃, hflag h₄, hflag h₅⟩, rfl⟩
  · cases hread

/-- What is read as an entry is read as the same from whatever looks like it. -/
theorem Entry.read_of_looksLike {e : Entry} (h : LooksLike t u v w) (hread : read t v = .ok e) :
    read u w = .ok e := by
  obtain ⟨entries, hactual, hid, hpath, hslug, hreferences, hcategory, hcomponents⟩ :=
    read_eq_ok_iff.mp hread
  obtain ⟨entries', hactual', hentries⟩ := h.exists_map hactual
  refine read_eq_ok_iff.mpr ⟨entries', hactual',
    optional_of_looksAlike hentries text_of_looksLike hid,
    optional_of_looksAlike hentries text_of_looksLike hpath,
    optional_of_looksAlike hentries text_of_looksLike hslug,
    optional_of_looksAlike hentries ?_ hreferences, optional_of_looksAlike hentries ?_ hcategory,
    optional_of_looksAlike hentries ?_ hcomponents⟩
  · exact listOrNull_of_looksLike fun _ _ => Directive.read_of_looksLike
  · exact nullable_of_looksLike CategoryKeys.read_of_looksLike
  · exact nullable_of_looksLike Components.read_of_looksLike

end WidgetContracts
