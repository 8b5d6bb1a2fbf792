/-
What stands under the keys of a mapping, and what fields are read from.

* `find?_eq_none_iff`: nothing stands under a key that no entry has.
* `of_find?`: what holds of all values holds of what stands under a key.
* `find?_put_self`: what was written under a key stands there.
* `valueUnder`, `optional_eq_ok_iff_valueUnder`: what a field is read from.
* `rename`, `renameAll`: entries with the second names of fields replaced by the first ones;
  `find?_renameAll_second`: nothing is left under the second names; `valueUnder_renameAll`: what
  fields are read from stays.
* `changeUnder`, `find?_changeUnder`: entries with other values under some keys.
-/
import Mathlib.Data.List.Basic
import WidgetContracts.Proofs.Reading.Outcomes

namespace WidgetContracts

open Reading

/-! ### What stands under a key -/

section

variable {key other : String} {k : Scalar} {v : Value} {entries : List (Scalar × Value)}

lemma Scalar.isText_iff {s : Scalar} : s.isText key = true ↔ s = .text key := by
  cases s with
  | text a => simp [isText]
  | null | bool | int | float | loose | bytes | day | moment => simp [isText]

lemma Scalar.isText_text_of_ne (h : other ≠ key) : (Scalar.text other).isText key = false :=
  beq_eq_false_iff_ne.mpr h

lemma Scalar.same_text (s : Scalar) : s.same (.text key) = s.isText key := by
  cases s with
  | text a => rfl
  | null | bool | int | float | loose | bytes | day | moment => simp [same, number?, isText]

lemma find?_cons_of_isText (h : k.isText key = true) :
    find? key ((k, v) :: entries) = some v := by
  rw [find?, if_pos h]

lemma find?_cons_of_not_isText (h : k.isText key = false) :
    find? key ((k, v) :: entries) = find? key entries := by
  rw [find?, if_neg (Bool.eq_false_iff.mp h)]

lemma find?_eq_none_iff : find? key entries = none ↔ ∀ p ∈ entries, p.1.isText key = false := by
  induction entries with
  | nil => exact ⟨fun _ _ hp => absurd hp List.not_mem_nil, fun _ => rfl⟩
  | cons p r ih =>
      obtain ⟨k, v⟩ := p
      rw [List.forall_mem_cons, ← ih]
      cases hk : k.isText key with
      | true => simp [find?_cons_of_isText hk]
      | false => simp [find?_cons_of_not_isText hk]

/-- What holds of all values of a mapping holds of what stands under a key. -/
lemma of_find? {P : Value → Prop} (h : ∀ p ∈ entries, P p.2) (hfind : find? key entries = some v) :
    P v := by
  induction entries with
  | nil => cases hfind
  | cons p r ih =>
      obtain ⟨hp, hr⟩ := List.forall_mem_cons.mp h
      rw [find?] at hfind
      split at hfind
      · rw [← Option.some.inj hfind]
        exact hp
      · exact ih hr hfind

/-- Dropping what stands under one key leaves what stands under another. -/
lemma find?_filter_of_ne (hne : key ≠ other) :
    find? key (entries.filter fun p => !p.1.isText other) = find? key entries := by
  induction entries with
  | nil => rfl
  | cons p r ih =>
      obtain ⟨k, v⟩ := p
      cases hk : k.isText other with
      | true =>
          have hkey : k.isText key = false := by
            rw [Scalar.isText_iff.mp hk, Scalar.isText_text_of_ne hne.symm]
          rw [List.filter_cons_of_neg (by simp [hk]), ih, find?_cons_of_not_isText hkey]
      | false => rw [List.filter_cons_of_pos (by simp [hk]), find?, find?, ih]

/-- What was written under a key stands there. -/
lemma find?_put_self (key : String) (v : Value) (entries : List (Scalar × Value)) :
    find? key (put (.text key) v entries) = some v := by
  induction entries with
  | nil => exact find?_cons_of_isText (Scalar.isText_iff.mpr rfl)
  | cons p r ih =>
      obtain ⟨k, w⟩ := p
      rw [put, Scalar.same_text]
      cases hk : k.isText key with
      | true => exact find?_cons_of_isText hk
      | false => exact (find?_cons_of_not_isText hk).trans ih

/-! ### What fields are read from -/

/-- What stands under the first of several names that is present. -/
def valueUnder (names : List String) (entries : List (Scalar × Value)) : Option Value :=
  names.findSome? fun name => find? name entries

lemma valueUnder_cons (name : String) (others : List String) :
    valueUnder (name :: others) entries = (find? name entries).or (valueUnder others entries) := by
  rw [valueUnder, List.findSome?_cons]
  cases find? name entries with
  | some v => rfl
  | none => rfl

lemma valueUnder_singleton (name : String) : valueUnder [name] entries = find? name entries := by
  rw [valueUnder_cons]
  exact Option.or_none

/-- What holds of all values of a mapping holds of what a field is read from. -/
lemma of_valueUnder {P : Value → Prop} {fields : List String} (h : ∀ p ∈ entries, P p.2)
    (hvalue : valueUnder fields entries = some v) : P v := by
  obtain ⟨key, -, hkey⟩ := List.exists_of_findSome?_eq_some hvalue
  exact of_find? h hkey

/-- What stands under the first present name is what the field is read from. -/
lemma map_snd_lookup (names : List String) (entries : List (Scalar × Value)) :
    (lookup names entries).map Prod.snd = valueUnder names entries := by
  induction names with
  | nil => rfl
  | cons name r ih =>
      rw [lookup, List.findSome?_cons, valueUnder, List.findSome?_cons]
      cases find? name entries with
      | some v => rfl
      | none => exact ih

end

section

variable {α : Type} {reader : Value → Checked α} {names : List String}
  {es fs : List (Scalar × Value)}

/-- A field that may be absent is read from what stands under its names, if anything does. -/
lemma optional_eq_ok_iff_valueUnder {absent a : α} : optional names absent reader es = .ok a ↔
    (∃ v, valueUnder names es = some v ∧ reader v = .ok a) ∨
      (valueUnder names es = none ∧ absent = a) := by
  rw [optional_eq_ok_iff, ← map_snd_lookup]
  cases lookup names es with
  | none => simp
  | some p =>
      obtain ⟨name, v⟩ := p
      simp

/-- Fields are read alike from entries with the same values under their names. -/
lemma lookup_congr (h : ∀ name ∈ names, find? name es = find? name fs) :
    lookup names es = lookup names fs := by
  induction names with
  | nil => rfl
  | cons name r ih =>
      obtain ⟨hname, hr⟩ := List.forall_mem_cons.mp h
      rw [lookup, lookup, List.findSome?_cons, List.findSome?_cons, hname]
      cases find? name fs with
      | some v => rfl
      | none => exact ih hr

end

/-! ### Other names -/

/-- Entries in which what stands under the name `second` stands under the name `first`; where
something stands there already, it is dropped. -/
def rename (first second : String) (entries : List (Scalar × Value)) : List (Scalar × Value) :=
  if (find? first entries).isSome then entries.filter fun p => !p.1.isText second
  else entries.map fun p => if p.1.isText second then (.text first, p.2) else p

/-- Entries with several names replaced, each by the one in front of it. -/
def renameAll (names : List (String × String)) (entries : List (Scalar × Value)) :
    List (Scalar × Value) :=
  names.foldl (fun es n => rename n.1 n.2 es) entries

section

variable {key first second : String} {entries : List (Scalar × Value)}

/-- Moving what stands under one key to another leaves what stands under a third. -/
lemma find?_map_of_ne (hfirst : key ≠ first) (hsecond : key ≠ second) :
    find? key (entries.map fun p => if p.1.isText second then (.text first, p.2) else p) =
      find? key entries := by
  induction entries with
  | nil => rfl
  | cons p r ih =>
      obtain ⟨k, v⟩ := p
      rw [List.map_cons]
      cases hk : k.isText second with
      | true =>
          have hkey : k.isText key = false := by
            rw [Scalar.isText_iff.mp hk, Scalar.isText_text_of_ne hsecond.symm]
          rw [if_pos rfl, find?_cons_of_not_isText (Scalar.isText_text_of_ne hfirst.symm), ih,
            find?_cons_of_not_isText hkey]
      | false => rw [if_neg Bool.false_ne_true, find?, find?, ih]

/-- What is moved to a key under which nothing stood stands there. -/
lemma find?_map_of_eq_none (h : find? first entries = none) :
    find? first (entries.map fun p => if p.1.isText second then (.text first, p.2) else p) =
      find? second entries := by
  rw [find?_eq_none_iff] at h
  induction entries with
  | nil => rfl
  | cons p r ih =>
      obtain ⟨k, v⟩ := p
      obtain ⟨hfirst, hr⟩ := List.forall_mem_cons.mp h
      rw [List.map_cons]
      cases hk : k.isText second with
      | true =>
          rw [if_pos rfl, find?_cons_of_isText (Scalar.isText_iff.mpr rfl), find?_cons_of_isText hk]
      | false =>
          rw [if_neg Bool.false_ne_true, find?_cons_of_not_isText hfirst,
            find?_cons_of_not_isText hk, ih hr]

lemma find?_rename_of_ne (hfirst : key ≠ first) (hsecond : key ≠ second) :
    find? key (rename first second entries) = find? key entries := by
  rw [rename]
  split
  · exact find?_filter_of_ne hsecond
  · exact find?_map_of_ne hfirst hsecond

/-- Under the first name stands what stood there, or else what stood under the second. -/
lemma find?_rename_first (hne : first ≠ second) :
    find? first (rename first second entries) =
      (find? first entries).or (find? second entries) := by
  cases h : find? first entries with
  | some v => rw [rename, h, if_pos Option.isSome_some, find?_filter_of_ne hne, h, Option.some_or]
  | none => rw [rename, h, if_neg (by decide), find?_map_of_eq_none h, Option.none_or]

/-- Nothing is left under the second name. -/
lemma find?_rename_second (hne : first ≠ second) :
    find? second (rename first second entries) = none := by
  rw [find?_eq_none_iff, rename]
  split
  · intro p hp
    simpa using (List.mem_filter.mp hp).2
  · rw [List.forall_mem_map]
    intro p _
    split
    · exact Scalar.isText_text_of_ne hne
    · next hp => exact Bool.eq_false_iff.mpr hp

end

section

variable {names : List (String × String)} {entries : List (Scalar × Value)}

lemma renameAll_cons (n : String × String) :
    renameAll (n :: names) entries = renameAll names (rename n.1 n.2 entries) := rfl

/-- Nothing comes to stand under a key that is no first name. -/
lemma find?_renameAll_eq_none {key : String} (hkey : ∀ n ∈ names, n.1 ≠ key)
    (h : find? key entries = none) : find? key (renameAll names entries) = none := by
  induction names generalizing entries with
  | nil => exact h
  | cons n r ih =>
      rw [List.forall_mem_cons] at hkey
      rw [renameAll_cons]
      refine ih hkey.2 ?_
      by_cases hsecond : key = n.2
      · rw [hsecond, find?_rename_second (hsecond ▸ hkey.1)]
      · rw [find?_rename_of_ne hkey.1.symm hsecond, h]

/-- No second name is left, if none is the first name of a field. -/
lemma find?_renameAll_second (h : ∀ m ∈ names, ∀ n ∈ names, m.1 ≠ n.2) :
    ∀ n ∈ names, find? n.2 (renameAll names entries) = none := by
  induction names generalizing entries with
  | nil => exact List.forall_mem_nil _
  | cons m r ih =>
      obtain ⟨hm, hr⟩ := List.forall_mem_cons.mp h
      have hothers : ∀ n ∈ r, n.1 ≠ m.2 := fun n hn => (List.forall_mem_cons.mp (hr n hn)).1
      have hsecond : find? m.2 (rename m.1 m.2 entries) = none :=
        find?_rename_second (hm m List.mem_cons_self)
      rw [List.forall_mem_cons, renameAll_cons]
      exact ⟨find?_renameAll_eq_none hothers hsecond,
        ih fun n hn => (List.forall_mem_cons.mp (hr n hn)).2⟩

/-! ### What renamed fields are read from -/

/-- A field is the one to be renamed, with both of its names, or it has neither of them. -/
def Fits (fields : List String) (n : String × String) : Prop :=
  fields = [n.1, n.2] ∨ n.1 ∉ fields ∧ n.2 ∉ fields

instance (fields : List String) (n : String × String) : Decidable (Fits fields n) :=
  inferInstanceAs (Decidable (_ ∨ _))

lemma valueUnder_rename_of_notMem {fields : List String} {first second : String}
    (hfirst : first ∉ fields) (hsecond : second ∉ fields) :
    valueUnder fields (rename first second entries) = valueUnder fields entries := by
  induction fields with
  | nil => rfl
  | cons key r ih =>
      rw [List.mem_cons, not_or] at hfirst hsecond
      rw [valueUnder_cons, valueUnder_cons, ih hfirst.2 hsecond.2,
        find?_rename_of_ne (Ne.symm hfirst.1) (Ne.symm hsecond.1)]

/-- Renaming leaves what a field is read from. -/
lemma valueUnder_rename {fields : List String} {n : String × String} (hne : n.1 ≠ n.2)
    (h : Fits fields n) :
    valueUnder fields (rename n.1 n.2 entries) = valueUnder fields entries := by
  rcases h with rfl | ⟨hfirst, hsecond⟩
  · rw [valueUnder_cons, valueUnder_cons, valueUnder_cons, valueUnder_cons,
      find?_rename_first hne, find?_rename_second hne, Option.none_or, Option.or_assoc]
    rfl
  · exact valueUnder_rename_of_notMem hfirst hsecond

/-- Renaming all fields leaves what each is read from. -/
lemma valueUnder_renameAll {fields : List String} (hne : ∀ n ∈ names, n.1 ≠ n.2)
    (h : ∀ n ∈ names, Fits fields n) :
    valueUnder fields (renameAll names entries) = valueUnder fields entries := by
  induction names generalizing entries with
  | nil => rfl
  | cons n r ih =>
      rw [List.forall_mem_cons] at hne h
      rw [renameAll_cons, ih hne.2 h.2, valueUnder_rename hne.1 h.1]

/-- Under a first name stands what its field is read from. -/
lemma find?_renameAll_first (n : String × String) (hn : n ∈ names)
    (hne : ∀ m ∈ names, ∀ n ∈ names, m.1 ≠ n.2) (h : ∀ m ∈ names, Fits [n.1, n.2] m) :
    find? n.1 (renameAll names entries) = valueUnder [n.1, n.2] entries := by
  rw [← valueUnder_renameAll (fun m hm => hne m hm m hm) h, valueUnder_cons, valueUnder_cons,
    find?_renameAll_second hne n hn, Option.none_or]
  exact (Option.or_none).symm

/-! ### Other values -/

/-- Entries with other values under some keys. -/
def changeUnder (keys : List String) (f : Value → Value) (entries : List (Scalar × Value)) :
    List (Scalar × Value) :=
  entries.map fun p => (p.1, if keys.any p.1.isText then f p.2 else p.2)

lemma Scalar.any_isText_text {keys : List String} {key : String} :
    (keys.any fun k => (Scalar.text key).isText k) = true ↔ key ∈ keys := by
  rw [List.any_eq_true]
  simp [isText]

lemma find?_changeUnder (keys : List String) (f : Value → Value) (key : String) :
    find? key (changeUnder keys f entries) =
      (find? key entries).map fun v => if key ∈ keys then f v else v := by
  induction entries with
  | nil => rfl
  | cons p r ih =>
      obtain ⟨k, v⟩ := p
      rw [changeUnder, List.map_cons]
      cases hk : k.isText key with
      | true =>
          obtain rfl := Scalar.isText_iff.mp hk
          rw [find?_cons_of_isText hk, find?_cons_of_isText hk, Option.map_some]
          exact congrArg some (if_congr Scalar.any_isText_text rfl rfl)
      | false =>
          rw [find?_cons_of_not_isText hk, find?_cons_of_not_isText hk]
          exact ih

/-- A field under whose names values are changed is read from the changed value. -/
lemma valueUnder_changeUnder_of_subset {keys fields : List String} {f : Value → Value}
    (h : fields ⊆ keys) :
    valueUnder fields (changeUnder keys f entries) = (valueUnder fields entries).map f := by
  induction fields with
  | nil => rfl
  | cons key r ih =>
      obtain ⟨hkey, hr⟩ := List.cons_subset.mp h
      rw [valueUnder_cons, valueUnder_cons, ih hr, find?_changeUnder, Option.map_or]
      simp only [hkey, if_true]

/-- Another field is read from the same value. -/
lemma valueUnder_changeUnder_of_disjoint {keys fields : List String} {f : Value → Value}
    (h : ∀ key ∈ fields, key ∉ keys) :
    valueUnder fields (changeUnder keys f entries) = valueUnder fields entries := by
  induction fields with
  | nil => rfl
  | cons key r ih =>
      obtain ⟨hkey, hr⟩ := List.forall_mem_cons.mp h
      rw [valueUnder_cons, valueUnder_cons, ih hr, find?_changeUnder]
      simp only [hkey, if_false, Option.map_id']

end

end WidgetContracts
