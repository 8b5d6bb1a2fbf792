/-
Paths that are extended, and their segments.

* `Url.IsDots`: a segment that is not kept in a path.
* `Url.segments`: the segments that are kept; `Url.settle_eq`.
* `Url.forall_beyond`: what stands behind the segments of a path was put there after them.
* `Url.settle_push`: a segment that is put behind a path stands behind it.
* `Url.exists_of_settle_eq`: what stands alone behind a path is a segment of what was put there.
-/
import WidgetContracts.Proofs.Remote.Escapes
import WidgetContracts.Proofs.Tag.Lines
import WidgetContracts.Remote.Url

namespace WidgetContracts

/-- What stands between the marks of a text is a part of it without marks. -/
lemma of_mem_splitOn {x : Char} {cs t : List Char} (h : t ∈ cs.splitOn x) : x ∉ t ∧ t <:+: cs := by
  by_cases hx : x ∈ cs
  · obtain ⟨as, bs, hcs, has⟩ := List.eq_append_cons_of_mem hx
    have hrest : bs <:+ cs := ⟨as ++ [x], by simp [hcs]⟩
    rw [hcs, List.splitOn_append_cons_self_of_not_mem has, List.mem_cons] at h
    rcases h with rfl | h
    · exact ⟨has, ⟨[], x :: bs, hcs.symm⟩⟩
    · have hshort : bs.length < cs.length := by
        rw [hcs, List.length_append, List.length_cons]
        omega
      obtain ⟨hnot, hpart⟩ := of_mem_splitOn h
      exact ⟨hnot, hpart.trans hrest.isInfix⟩
  · rw [List.splitOn_eq_singleton hx, List.mem_singleton] at h
    subst h
    exact ⟨hx, List.infix_refl _⟩
termination_by cs.length

namespace Url

/-- A segment that is not kept in a path. -/
def IsDots (s : List Char) : Prop := s = ['.'] ∨ s = ['.', '.']

instance (s : List Char) : Decidable (IsDots s) := inferInstanceAs (Decidable (_ ∨ _))

/-! ### Keeping segments -/

section

variable {kept ss : List (List Char)}

lemma settleSegments_append (kept xs ys : List (List Char)) :
    settleSegments kept (xs ++ ys) = settleSegments (settleSegments kept xs).reverse ys := by
  induction xs generalizing kept with
  | nil => rw [List.nil_append, settleSegments, List.reverse_reverse]
  | cons s r ih =>
      rw [List.cons_append, settleSegments, settleSegments]
      split_ifs
      · exact ih kept
      · exact ih _
      · exact ih _
      · exact ih _

lemma settleSegments_of_not_dots (h : ∀ s ∈ ss, ¬IsDots s) :
    settleSegments kept ss = kept.reverse ++ ss := by
  induction ss generalizing kept with
  | nil => rw [settleSegments, List.append_nil]
  | cons s r ih =>
      rw [List.forall_mem_cons] at h
      obtain ⟨hone, htwo⟩ := not_or.mp h.1
      rw [settleSegments, if_neg hone, if_neg htwo, ih h.2, List.reverse_cons, List.append_assoc]
      rfl

/-- The root is kept. -/
lemma head?_settleSegments (h : kept.getLast? = some []) :
    (settleSegments kept ss).head? = some [] := by
  induction ss generalizing kept with
  | nil => rw [settleSegments, List.head?_reverse, h]
  | cons s r ih =>
      rw [settleSegments]
      split_ifs with hone htwo hroot
      · exact ih h
      · exact ih h
      · refine ih ?_
        cases kept with
        | nil => cases h
        | cons x kept =>
            cases kept with
            | nil =>
                rw [List.getLast?_singleton, Option.some.injEq] at h
                exact absurd (congrArg (fun y => [y]) h) hroot
            | cons y kept => rwa [List.getLast?_cons_cons] at h
      · refine ih ?_
        cases kept with
        | nil => cases h
        | cons x kept => rwa [List.getLast?_cons_cons]

/-- What stands behind the first `n` segments stood there before, or was put there. -/
lemma forall_beyond {p : List Char → Prop} {n : Nat} (hkept : ∀ s ∈ kept.reverse.drop n, p s)
    (hput : ∀ s ∈ ss, ¬IsDots s → p s) :
    ∀ s ∈ (settleSegments kept ss).drop n, p s := by
  induction ss generalizing kept with
  | nil => exact hkept
  | cons s r ih =>
      rw [List.forall_mem_cons] at hput
      rw [settleSegments]
      split_ifs with hone htwo hroot
      · exact ih hkept hput.2
      · exact ih hkept hput.2
      · -- fewer segments stand there than before
        refine ih (fun t ht => hkept t ?_) hput.2
        have hfewer : (kept.drop 1).reverse.Sublist kept.reverse :=
          List.reverse_sublist.mpr (List.drop_sublist 1 kept)
        exact (hfewer.drop n).subset ht
      · refine ih (fun t ht => ?_) hput.2
        rw [List.reverse_cons, List.drop_append, List.mem_append] at ht
        rcases ht with ht | ht
        · exact hkept t ht
        · obtain rfl := List.mem_singleton.mp (List.mem_of_mem_drop ht)
          exact hput.1 (not_or.mpr ⟨hone, htwo⟩)

end

/-! ### The segments of a path -/

/-- The segments that are kept in a path. -/
def segments (path : List Char) : List (List Char) := settleSegments [] (path.splitOn '/')

lemma settle_eq (path : List Char) : settle path = ['/'].intercalate (segments path) := by
  rw [settle]
  split_ifs with h
  · rfl
  · rw [Bool.or_eq_true, not_or, List.contains_iff_mem, List.contains_iff_mem] at h
    have hdots : ∀ s ∈ path.splitOn '/', ¬IsDots s := by
      rintro s hs (rfl | rfl)
      · exact h.1 hs
      · exact h.2 hs
    rw [segments, settleSegments_of_not_dots hdots]
    exact (List.intercalate_splitOn '/').symm

/-- The segments of a path that is extended. -/
lemma segments_append (path extension : List Char) :
    segments (path ++ '/' :: extension) =
      settleSegments (segments path).reverse (extension.splitOn '/') := by
  rw [segments, List.splitOn_append_cons_self, settleSegments_append]
  rfl

lemma slash_notMem_of_mem_segments {path s : List Char} (h : s ∈ segments path) : '/' ∉ s := by
  have hnone : ∀ s ∈ List.drop 0 (List.reverse ([] : List (List Char))), '/' ∉ s :=
    fun s hs => absurd hs List.not_mem_nil
  exact forall_beyond hnone (fun s hs _ => (of_mem_splitOn hs).1) s h

/-! ### Extending a path -/

/-- A path begins at the root: it is empty, or begins with a slash. -/
def FromRoot (path : List Char) : Prop := ∀ c ∈ path.head?, c = '/'

section

variable {path s : List Char}

lemma FromRoot.append (h : FromRoot path) (s : List Char) : FromRoot (path ++ '/' :: s) := by
  cases path with
  | nil => exact fun c hc => (Option.some.inj hc).symm
  | cons c r => exact h

lemma FromRoot.segments_ne_nil (h : FromRoot path) : segments path ≠ [] := by
  have hroot : (segments path).head? = some [] := by
    cases path with
    | nil => rfl
    | cons c r =>
        obtain rfl := h c rfl
        have hsplit : ('/' :: r).splitOn '/' = [] :: r.splitOn '/' :=
          List.splitOn_append_cons_self [] r
        rw [segments, hsplit]
        change (settleSegments [[]] (r.splitOn '/')).head? = some []
        exact head?_settleSegments rfl
  intro hnil
  rw [hnil] at hroot
  cases hroot

/-- **A segment that is put behind a path stands behind it.** -/
lemma settle_push (h : FromRoot path) (hs : '/' ∉ s) (hdots : ¬IsDots s) :
    settle (path ++ '/' :: s) = settle path ++ '/' :: s := by
  have hone : ∀ t ∈ [s], ¬IsDots t := fun t ht => by rwa [List.mem_singleton.mp ht]
  rw [settle_eq, segments_append, List.splitOn_eq_singleton hs, settleSegments_of_not_dots hone,
    List.reverse_reverse, intercalate_append _ h.segments_ne_nil (List.cons_ne_nil _ _), settle_eq,
    List.intercalate_singleton, List.append_assoc]
  rfl

end

lemma escape_path_intercalate (ss : List (List Char)) :
    escape escapedInPath (['/'].intercalate ss) =
      ['/'].intercalate (ss.map (escape escapedInPath)) := by
  induction ss with
  | nil => rfl
  | cons s r ih =>
      cases r with
      | nil => rw [List.map_singleton, List.intercalate_singleton, List.intercalate_singleton]
      | cons t r =>
          rw [List.map_cons, List.map_cons, List.intercalate_cons_cons,
            List.intercalate_cons_cons, escape_append, escape_append, ih]
          rfl

/-- The segments of an escaped path. -/
lemma splitOn_escape_settle {path : List Char} (h : FromRoot path) :
    (escape escapedInPath (settle path)).splitOn '/' =
      (segments path).map (escape escapedInPath) := by
  rw [settle_eq, escape_path_intercalate]
  refine List.splitOn_intercalate '/' ?_ (by simpa using h.segments_ne_nil)
  intro s hs
  obtain ⟨t, ht, rfl⟩ := List.mem_map.mp hs
  exact slash_notMem_escape_path (slash_notMem_of_mem_segments ht)

/-- **What stands alone behind a path is a segment of what was put there.** -/
lemma exists_of_settle_eq {path extension s : List Char} (h : FromRoot path) (hs : '/' ∉ s)
    (heq : escape escapedInPath (settle (path ++ '/' :: extension)) =
      escape escapedInPath (settle path) ++ '/' :: s) :
    ∃ t ∈ extension.splitOn '/', ¬IsDots t ∧ escape escapedInPath t = s := by
  have hsplit := congrArg (List.splitOn '/') heq
  rw [splitOn_escape_settle (h.append _), List.splitOn_append_cons_self, splitOn_escape_settle h,
    List.splitOn_eq_singleton hs] at hsplit
  have hlast := congrArg (List.drop (segments path).length) hsplit
  rw [← List.map_drop, List.drop_left' (List.length_map _)] at hlast
  obtain ⟨t, ht, hescape⟩ := List.mem_map.mp (hlast ▸ List.mem_singleton_self s)
  have hnone : ∀ t ∈ (segments path).reverse.reverse.drop (segments path).length,
      t ∈ extension.splitOn '/' ∧ ¬IsDots t := by simp
  rw [segments_append] at ht
  obtain ⟨hmem, hdots⟩ := forall_beyond hnone (fun t ht hdots => ⟨ht, hdots⟩) t ht
  exact ⟨t, hmem, hdots, hescape⟩

end Url

end WidgetContracts
