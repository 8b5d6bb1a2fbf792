/-
What is asked for down a chain of embedded shapes.

* `Fetch`, `Trail`: the fetches that lead from a shape to one embedded in it, each with the
  directive that asked for it, the identifier asked for and the shape that came of it.
* `exists_trail_of_chain`: every chain of embedded shapes is that of a trail.
* `Guarded`: every fetch but the last comes of a directive that nests further, and leads to none of
  the identifiers on the way.
* `Trail.guarded`: the trails of a resolved collection are guarded.
* `Trail.length_le`: a trail is no longer than the directives nest.
* `asked_twice_under_other_id`: an identifier is asked for twice, by directives that nest further,
  only if the store answers it with a collection of another identifier.
* `not_nodup_targets`: with such a store this happens.
-/
import WidgetContracts.Proofs.Resolve.Chains
import WidgetContracts.Proofs.Resolve.Traces

namespace WidgetContracts

open CollectionShape (Embeds)

/-! ### Trails -/

/-- A fetch on the way down a chain of embedded shapes: the directive that asked for it, the
identifier asked for, and the shape that came of it. -/
structure Fetch where
  directive : Directive
  target : String
  shape : CollectionShape

/-- Whether the directive of a fetch asks for anything further. -/
def Fetch.nests (x : Fetch) : Bool := !x.directive.nested.isEmpty

/-- The fetches that lead down from a shape, which is the shape of the collection `raw`: each is for
the target of a field that the last directive for it asks to embed, and what the store answers is
embedded in that field. -/
inductive Trail (s : Source) : Collection → CollectionShape → List Fetch → Prop
  | nil {raw : Collection} {shape : CollectionShape} : Trail s raw shape []
  | cons {raw r : Collection} {shape sub : CollectionShape} {f : Field}
      {g : FieldShape CollectionShape} {d : Directive} {t : String} {xs : List Fetch}
      (field : (f, g) ∈ raw.fields.zip shape.fields)
      (requested : f.Requested shape.entry.references d) (target : f.target = some t)
      (answer : s.Answers t r) (inside : g.shape = some sub) (below : Trail s r sub xs) :
      Trail s raw shape (⟨d, t, sub⟩ :: xs)

variable {s : Source}

/-- Every chain of embedded shapes below a resolved collection is that of a trail. -/
lemma exists_trail_of_chain (ss : List CollectionShape) :
    ∀ (above : List String) (raw : Collection) (e : Entry),
      List.IsChain Embeds ((resolve (some s) above raw e).value :: ss) →
      ∃ xs, Trail s raw (resolve (some s) above raw e).value xs ∧ xs.map (·.shape) = ss := by
  induction ss with
  | nil => exact fun _ _ _ _ => ⟨[], .nil, rfl⟩
  | cons x r ih =>
      intro above raw e hc
      obtain ⟨hx, hr⟩ := List.isChain_cons_cons.mp hc
      obtain ⟨f, g, d, t, c, field, inside, hres, rfl⟩ := exists_field_of_embeds hx
      obtain ⟨xs, hxs, rfl⟩ := ih _ _ _ hr
      have hrequested : f.Requested (resolve (some s) above raw e).value.entry.references d := by
        rw [resolve_entry]
        exact hres.requested
      exact ⟨_, .cons field hrequested hres.leads.target (Source.answers_of_ask hres.found) inside
        hxs, rfl⟩

/-- The first fetch below a resolved collection is that of a reference that resolves. -/
lemma Trail.resolves {above : List String} {raw : Collection} {e : Entry} {x : Fetch}
    {xs : List Fetch} (h : Trail s raw (resolve (some s) above raw e).value (x :: xs)) :
    ∃ f r, s.Resolves ((resolve (some s) above raw e).value.collectionId :: above) e.references f
        x.directive x.target r ∧
      x.shape = (resolve (some s) ((resolve (some s) above raw e).value.collectionId :: above) r
        (nestedEntry (orElse r.id x.target) x.directive)).value ∧
      Trail s r x.shape xs := by
  cases h with
  | @cons _ r _ sub f g d t _ field requested target answer inside below =>
      have hg := List.forall₂_zip (resolve_fields (some s) above raw e) field
      rw [hg] at inside
      rw [resolve_entry] at requested
      obtain ⟨d', u, r', hr, hsub⟩ := exists_resolves_of_shape inside
      obtain rfl : d' = d := hr.requested.unique requested
      obtain rfl : u = t := Option.some.inj (hr.leads.target.symm.trans target)
      obtain rfl : r' = r := (Source.answers_of_ask hr.found).unique answer
      exact ⟨f, r', hr, hsub, below⟩

/-! ### The guard -/

/-- Fetches below given identifiers are guarded: each but the last comes of a directive that nests
further, and a fetch of such a directive leads to none of the identifiers of the shapes above it. -/
inductive Guarded : List String → List Fetch → Prop
  | nil {path : List String} : Guarded path []
  | last {path : List String} {x : Fetch} (ends : x.directive.nested = []) : Guarded path [x]
  | cons {path : List String} {x : Fetch} {xs : List Fetch} (nests : x.directive.nested ≠ [])
      (fresh : x.target ∉ path) (below : Guarded (x.shape.collectionId :: path) xs) :
      Guarded path (x :: xs)

/-- The trails of a resolved collection are guarded: by induction on the trail, with the path that
resolving carries. -/
theorem Trail.guarded {xs : List Fetch} :
    ∀ {above : List String} {raw : Collection} {e : Entry},
      Trail s raw (resolve (some s) above raw e).value xs →
      Guarded ((resolve (some s) above raw e).value.collectionId :: above) xs := by
  induction xs with
  | nil => exact fun _ => .nil
  | cons x xs ih =>
      intro above raw e h
      obtain ⟨f, r, hr, hshape, hbelow⟩ := h.resolves
      by_cases hnested : x.directive.nested = []
      · cases xs with
        | nil => exact .last hnested
        | cons y ys =>
            -- nothing is asked for below a directive that does not nest further
            rw [hshape] at hbelow
            obtain ⟨f', r', hr', -⟩ := hbelow.resolves
            have hmem : y.directive ∈ x.directive.nested := hr'.requested.mem
            rw [hnested] at hmem
            cases hmem
      · have hfresh := fun hmem => hr.leads.2.2 ⟨hmem, hnested⟩
        rw [hshape] at hbelow
        refine .cons hnested hfresh ?_
        rw [hshape]
        exact ih hbelow

namespace Guarded

/-- What follows a fetch is guarded below its shape, too. -/
lemma below_of_ne_nil {path : List String} {x : Fetch} {xs : List Fetch}
    (h : Guarded path (x :: xs)) (hne : xs ≠ []) : Guarded (x.shape.collectionId :: path) xs := by
  cases h with
  | last => exact absurd rfl hne
  | cons nests fresh below => exact below

/-- A fetch for an identifier that stands above it is the last one, and its directive asks for
nothing further. -/
lemma last_of_mem {path : List String} {before after : List Fetch} {x : Fetch}
    (h : Guarded path (before ++ x :: after))
    (hmem : x.target ∈ path ∨ x.target ∈ before.map (·.shape.collectionId)) :
    x.directive.nested = [] ∧ after = [] := by
  induction before generalizing path with
  | nil =>
      cases h with
      | last ends => exact ⟨ends, rfl⟩
      | cons nests fresh below =>
          rcases hmem with hpath | hbefore
          · exact absurd hpath fresh
          · cases hbefore
  | cons y ys ih =>
      rw [List.cons_append] at h
      refine ih (h.below_of_ne_nil (by simp)) ?_
      rcases hmem with hpath | hbefore
      · exact Or.inl (List.mem_cons_of_mem _ hpath)
      · rw [List.map_cons, List.mem_cons] at hbefore
        rcases hbefore with heq | hys
        · exact Or.inl (heq ▸ List.mem_cons_self)
        · exact Or.inr hys

/-- No fetch of a directive that nests further leads to an identifier above it. -/
lemma fresh_of_nests {path : List String} {xs : List Fetch} (h : Guarded path xs) :
    ∀ x ∈ xs, x.nests = true → x.target ∉ path := by
  induction h with
  | nil => simp
  | @last path x ends =>
      intro y hy hnests
      obtain rfl := List.mem_singleton.mp hy
      rw [Fetch.nests, ends] at hnests
      cases hnests
  | @cons path x xs nests fresh below ih =>
      rw [List.forall_mem_cons]
      exact ⟨fun _ => fresh, fun y hy hnests hmem => ih y hy hnests (List.mem_cons_of_mem _ hmem)⟩

/-- No fetch of a directive that nests further leads to the identifier of a shape fetched before. -/
lemma pairwise_ne {path : List String} {xs : List Fetch} (h : Guarded path xs) :
    xs.Pairwise fun x y => y.nests = true → y.target ≠ x.shape.collectionId := by
  induction h with
  | nil => exact .nil
  | last => exact List.pairwise_singleton _ _
  | @cons path x xs nests fresh below ih =>
      refine List.pairwise_cons.mpr ⟨fun y hy hnests heq => ?_, ih⟩
      exact below.fresh_of_nests y hy hnests (heq ▸ List.mem_cons_self)

end Guarded

/-! ### What the store answered -/

/-- The shape of a fetch has the identifier of what the store answered, or else the one asked for.
-/
lemma Trail.exists_answer {xs : List Fetch} :
    ∀ {above : List String} {raw : Collection} {e : Entry},
      Trail s raw (resolve (some s) above raw e).value xs →
      ∀ x ∈ xs, ∃ r, s.Answers x.target r ∧ x.shape.collectionId = orElse r.id x.target := by
  induction xs with
  | nil => simp
  | cons x xs ih =>
      intro above raw e h
      obtain ⟨f, r, hr, hshape, hbelow⟩ := h.resolves
      rw [List.forall_mem_cons]
      constructor
      · refine ⟨r, Source.answers_of_ask hr.found, ?_⟩
        rw [hshape, resolve_collectionId]
        exact orElse_orElse r.id x.target
      · rw [hshape] at hbelow
        exact ih hbelow

lemma orElse_ne {a b : String} (h : orElse a b ≠ b) : a ≠ "" ∧ a ≠ b := by
  unfold orElse at h
  split at h
  · exact absurd rfl h
  · next ha => exact ⟨ha, h⟩

/-! ### The length of trails -/

/-- A trail is no longer than the directives nest. -/
lemma Trail.length_le {xs : List Fetch} :
    ∀ {above : List String} {raw : Collection} {e : Entry},
      Trail s raw (resolve (some s) above raw e).value xs → xs.length ≤ depthOf e.references := by
  induction xs with
  | nil => intros; exact Nat.zero_le _
  | cons x xs ih =>
      intro above raw e h
      obtain ⟨f, r, hr, hshape, hbelow⟩ := h.resolves
      rw [hshape] at hbelow
      have hdepth := depth_le_of_mem hr.requested.mem
      have hlength : xs.length ≤ depthOf x.directive.nested := ih hbelow
      rw [Directive.depth_eq] at hdepth
      rw [List.length_cons]
      omega

/-! ### Identifiers asked for twice -/

/-- Of two fetches for one identifier whose directives nest further, the first was answered with a
collection that carries another identifier. -/
lemma Trail.pairwise_other_id {above : List String} {raw : Collection} {e : Entry}
    {xs : List Fetch} (h : Trail s raw (resolve (some s) above raw e).value xs) :
    (xs.filter Fetch.nests).Pairwise fun x y => x.target = y.target →
      ∃ r, s.Answers x.target r ∧ r.id ≠ "" ∧ r.id ≠ x.target := by
  refine List.Pairwise.imp_of_mem ?_ (h.guarded.pairwise_ne.sublist List.filter_sublist)
  intro x y hx hy hne heq
  obtain ⟨hx, -⟩ := List.mem_filter.mp hx
  obtain ⟨-, hnests⟩ := List.mem_filter.mp hy
  obtain ⟨r, hr, hid⟩ := h.exists_answer x hx
  have hother : orElse r.id x.target ≠ x.target := by
    rw [← hid, heq]
    exact (hne hnests).symm
  exact ⟨r, hr, orElse_ne hother⟩

/-- **An identifier is asked for twice only under another identifier**: every chain of embedded
shapes is that of a trail; down a trail, a fetch for an identifier that a shape above carries is the
last one; of two fetches for one identifier whose directives nest further, the first was answered
with a collection that carries another identifier, so that no such identifier repeats where the
store is consistent; and no trail is longer than the directives nest. -/
theorem asked_twice_under_other_id (s : Source) (c : Collection) (e : Entry) :
    (∀ ss, List.IsChain Embeds ((resolve (some s) [] c e).value :: ss) →
      ∃ xs, Trail s c (resolve (some s) [] c e).value xs ∧ xs.map (·.shape) = ss) ∧
    ∀ xs, Trail s c (resolve (some s) [] c e).value xs →
      (∀ before x after, xs = before ++ x :: after →
        x.target ∈ (resolve (some s) [] c e).value.collectionId ::
          before.map (·.shape.collectionId) →
        x.directive.nested = [] ∧ after = []) ∧
      ((xs.filter Fetch.nests).Pairwise fun x y => x.target = y.target →
        ∃ r, s.Answers x.target r ∧ r.id ≠ "" ∧ r.id ≠ x.target) ∧
      (s.IdConsistent → ((xs.filter Fetch.nests).map (·.target)).Nodup) ∧
      xs.length ≤ depthOf e.references := by
  refine ⟨fun ss => exists_trail_of_chain ss [] c e, fun xs h => ?_⟩
  refine ⟨?_, h.pairwise_other_id, ?_, h.length_le⟩
  · rintro before x after rfl hmem
    refine h.guarded.last_of_mem ?_
    rcases List.mem_cons.mp hmem with hroot | hbefore
    · exact Or.inl (List.mem_singleton.mpr hroot)
    · exact Or.inr hbefore
  · intro hs
    rw [List.Nodup, List.pairwise_map]
    refine h.pairwise_other_id.imp fun {x y} hxy heq => ?_
    obtain ⟨r, hr, hne, hid⟩ := hxy heq
    rcases hs _ r hr with hsame | hempty
    · exact hid hsame
    · exact hne hempty

/-! ### Magazines, which the store knows as journals -/

namespace Sample

/-- A reference to the magazines. -/
def successor : Field := ⟨"successor", none, "REFERENCE", false, some "Magazines"⟩

/-- A library, which refers to the magazines. -/
def library : Collection := ⟨"Library", none, [successor]⟩

/-- The journals, which refer to the magazines, too. -/
def journals : Collection := ⟨"Journals", none, [successor]⟩

/-- A store that answers with the journals when it is asked for the magazines. -/
def renamed : Source :=
  { source with store := fun id =>
      if id = "Magazines" then .document journals.toValue else .missing }

/-- A directive that embeds successors, and nests as deep as told. -/
def successors : Nat → Directive
  | 0 => ⟨"successor", .embed, []⟩
  | n + 1 => ⟨"successor", .embed, [successors n]⟩

/-- An entry of the library with such a directive. -/
def libraryEntry (n : Nat) : Entry :=
  ⟨"Library", "/library", "slug", [successors n], none, some Components.none⟩

/-- A shape with the field of a successor. -/
def periodical (id : String) (e : Entry) (embedded : Bool) (shape : Option CollectionShape) :
    CollectionShape :=
  ⟨id, none, e, [⟨"successor", .reference, .string, none, embedded, shape⟩]⟩

/-- The journals in one another. -/
def journalsTree : Nat → CollectionShape
  | 0 => periodical "Journals" (nestedEntry "Journals" (successors 0)) false none
  | n + 1 =>
    periodical "Journals" (nestedEntry "Journals" (successors (n + 1))) true
      (some (journalsTree n))

/-- The library with the journals in one another. -/
def libraryTree (n : Nat) : CollectionShape :=
  periodical "Library" (libraryEntry n) true (some (journalsTree n))

lemma renamed_givesTime : renamed.GivesTime := givesTime

lemma answers_magazines : renamed.Answers "Magazines" journals := rfl

/-- The reference to the magazines resolves as long as only journals are on the way. -/
lemma resolves_successor {path : List String} (hpath : "Magazines" ∉ path) (n : Nat) :
    renamed.Resolves path [successors n] successor (successors n) "Magazines" journals := by
  have hlast : IsLastFor "successor" [successors n] (successors n) := by
    refine ⟨[], [], rfl, ?_, by simp⟩
    cases n <;> rfl
  have hmode : (successors n).mode = .embed := by cases n <;> rfl
  exact ⟨⟨⟨by decide, Or.inl rfl⟩, hlast, hmode⟩,
    ⟨rfl, by decide, fun hon => hpath hon.1⟩,
    (Source.ask_found_iff renamed_givesTime).mpr answers_magazines⟩

/-- Resolving a collection with a successor embeds what the journals resolve to. -/
lemma resolve_periodical {path : List String} {id : String} {e : Entry} {n : Nat} (hid : id ≠ "")
    (hpath : "Magazines" ∉ id :: path) (hdirectives : e.references = [successors n])
    {sub : Traced CollectionShape}
    (hsub : resolve (some renamed) (id :: path) journals
      (nestedEntry "Journals" (successors n)) = sub) :
    resolve (some renamed) path ⟨id, none, [successor]⟩ e =
      ⟨periodical id e true (some sub.value), sub.records, "Magazines" :: sub.asked⟩ := by
  have hown : orElse id e.collectionId = id := if_neg hid
  have hfield : resolveField (some renamed) id (id :: path) [successors n] successor =
      ⟨successor.shape true (some sub.value), sub.records, "Magazines" :: sub.asked⟩ :=
    (resolves_successor hpath n).resolveField_eq hsub
  rw [resolve_eq, hdirectives, hown]
  simp only [Traced.traverse, hfield, Traced.bind_eq, Traced.pure_value, Traced.pure_records,
    Traced.pure_asked, List.append_nil]
  rfl

/-- The journals stand in one another as deep as the directive nests, and are asked for at each
depth. -/
lemma resolve_journals (n : Nat) :
    ∀ path : List String, "Magazines" ∉ path →
      resolve (some renamed) path journals (nestedEntry "Journals" (successors n)) =
        ⟨journalsTree n, [], List.replicate n "Magazines"⟩ := by
  induction n with
  | zero =>
      intro path _
      rw [resolve_eq]
      rfl
  | succ n ih =>
      intro path hpath
      have hinside : "Magazines" ∉ "Journals" :: path := by simpa using hpath
      exact resolve_periodical (by decide) hinside rfl (ih _ hinside)

/-- However few collections a store has, one of them may be asked for as often as directives nest:
here the guard never sees the identifier that is asked for. -/
theorem resolve_library (n : Nat) :
    resolve (some renamed) [] library (libraryEntry n) =
      ⟨libraryTree n, [], List.replicate (n + 1) "Magazines"⟩ :=
  resolve_periodical (by decide) (by decide) rfl (resolve_journals n _ (by decide))

/-- The fetches down the journals in one another. -/
def successorFetches : Nat → List Fetch
  | 0 => [⟨successors 0, "Magazines", journalsTree 0⟩]
  | n + 1 => ⟨successors (n + 1), "Magazines", journalsTree (n + 1)⟩ :: successorFetches n

lemma trail_periodical (n : Nat) :
    ∀ (id : String) (e : Entry), e.references = [successors n] →
      Trail renamed ⟨id, none, [successor]⟩ (periodical id e true (some (journalsTree n)))
        (successorFetches n) := by
  have hfield : ∀ (id : String) (e : Entry) (sub : CollectionShape),
      (successor, ⟨"successor", .reference, .string, none, true, some sub⟩) ∈
        [successor].zip (periodical id e true (some sub)).fields :=
    fun _ _ _ => List.mem_cons_self
  have hnone : "Magazines" ∉ ([] : List String) := List.not_mem_nil
  have hrequested : ∀ n, successor.Requested [successors n] (successors n) :=
    fun n => (resolves_successor hnone n).requested
  induction n with
  | zero =>
      intro id e he
      exact .cons (hfield id e _) (he ▸ hrequested 0) rfl answers_magazines rfl .nil
  | succ n ih =>
      intro id e he
      have hbelow := ih "Journals" (nestedEntry "Journals" (successors (n + 1))) rfl
      exact .cons (hfield id e _) (he ▸ hrequested (n + 1)) rfl answers_magazines rfl hbelow

lemma trail_library (n : Nat) :
    Trail renamed library (resolve (some renamed) [] library (libraryEntry n)).value
      (successorFetches n) := by
  rw [resolve_library]
  exact trail_periodical n "Library" (libraryEntry n) rfl

end Sample

theorem asked_twice_under_other_id_sample :
    Trail Sample.renamed Sample.library
        (resolve (some Sample.renamed) [] Sample.library (Sample.libraryEntry 2)).value
        (Sample.successorFetches 2) ∧
      ((Sample.successorFetches 2).filter Fetch.nests).map (·.target) =
        ["Magazines", "Magazines"] ∧
      ∃ r, Sample.renamed.Answers "Magazines" r ∧ r.id ≠ "" ∧ r.id ≠ "Magazines" := by
  obtain ⟨-, hother, -⟩ := (asked_twice_under_other_id _ _ _).2 _ (Sample.trail_library 2)
  refine ⟨Sample.trail_library 2, rfl, ?_⟩
  exact List.rel_of_pairwise_cons hother List.mem_cons_self rfl

/-- With a store that answers with collections of other identifiers, a chain may ask twice for one
identifier by directives that nest further. -/
theorem not_nodup_targets :
    ¬∀ (s : Source) (c : Collection) (e : Entry) (xs : List Fetch),
      Trail s c (resolve (some s) [] c e).value xs →
        ((xs.filter Fetch.nests).map (·.target)).Nodup := by
  intro h
  have hnodup := h _ _ _ _ (Sample.trail_library 2)
  have htwice : ((Sample.successorFetches 2).filter Fetch.nests).map (·.target) =
      ["Magazines", "Magazines"] := rfl
  rw [htwice] at hnodup
  exact absurd hnodup (by decide)

end WidgetContracts
