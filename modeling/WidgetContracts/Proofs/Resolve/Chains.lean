/-
Chains of shapes that are embedded in one another.

* `Source.IdConsistent`: the store answers an identifier only with collections of that identifier,
  or of none.
* `Interior`: shapes with distinct identifiers that the store answers, none of which stands above
  them.
* `interior_of_chain`: the shapes of a chain below its first one, but for the last, are so.
* `nodup_dropLast_and_length_le`: the identifiers of a chain repeat at its last shape only, so that
  no chain is much longer than the list of collections that the store knows.
-/
import Mathlib.Data.Finset.Card
import WidgetContracts.Proofs.Resolve.Nodes
import WidgetContracts.Proofs.Shape.Nesting

namespace WidgetContracts

open CollectionShape (Embeds)

/-- The store answers an identifier only with collections that have this identifier or none. -/
def Source.IdConsistent (s : Source) : Prop :=
  ∀ t r, s.Answers t r → r.id = t ∨ r.id = ""

variable {s : Source}

lemma Source.IdConsistent.orElse_eq (hs : s.IdConsistent) {t : String} {r : Collection}
    (hr : s.Answers t r) : orElse r.id t = t := by
  unfold orElse
  rcases hs t r hr with hid | hid
  · rw [hid]
    split <;> simp [*]
  · rw [if_pos hid]

/-- A shape embedded in a resolved collection is that of the collection behind one of its
references. -/
lemma exists_resolves_of_embeds {above : List String} {raw : Collection} {e : Entry}
    {sub : CollectionShape} (h : Embeds (resolve (some s) above raw e).value sub) :
    ∃ f d t r,
      s.Resolves ((resolve (some s) above raw e).value.collectionId :: above) e.references
        f d t r ∧
      sub = (resolve (some s) ((resolve (some s) above raw e).value.collectionId :: above) r
        (nestedEntry (orElse r.id t) d)).value := by
  obtain ⟨f, -, d, t, r, -, -, hr, hsub⟩ := exists_field_of_embeds h
  exact ⟨f, d, t, r, hr, hsub⟩

/-- Where a shape is embedded, a directive asked for it. -/
lemma references_ne_nil_of_embeds {above : List String} {raw : Collection} {e : Entry}
    {sub : CollectionShape} (h : Embeds (resolve (some s) above raw e).value sub) :
    e.references ≠ [] := by
  obtain ⟨f, d, t, r, hr, -⟩ := exists_resolves_of_embeds h
  obtain ⟨before, after, heq, -⟩ := hr.requested.2.1
  rw [heq]
  simp

/-! ### The invariant of a chain -/

/-- Shapes with distinct identifiers that the store answers, none of which stands above them. -/
structure Interior (s : Source) (above : List String) (ss : List CollectionShape) : Prop where
  nodup : (ss.map (·.collectionId)).Nodup
  fresh : ∀ x ∈ ss, x.collectionId ∉ above
  answered : ∀ x ∈ ss, ∃ r, s.Answers x.collectionId r

lemma Interior.nil (s : Source) (above : List String) : Interior s above [] :=
  ⟨List.nodup_nil, by simp, by simp⟩

/-- One more shape on top of others. -/
lemma Interior.cons {above : List String} {x : CollectionShape} {ss : List CollectionShape}
    (h : Interior s (x.collectionId :: above) ss) (hx : x.collectionId ∉ above) {r : Collection}
    (hr : s.Answers x.collectionId r) : Interior s above (x :: ss) := by
  refine ⟨?_, ?_, ?_⟩
  · rw [List.map_cons, List.nodup_cons]
    refine ⟨?_, h.nodup⟩
    intro hmem
    obtain ⟨y, hy, heq⟩ := List.mem_map.mp hmem
    exact h.fresh y hy (heq ▸ List.mem_cons_self)
  · rw [List.forall_mem_cons]
    exact ⟨hx, fun y hy hmem => h.fresh y hy (List.mem_cons_of_mem _ hmem)⟩
  · rw [List.forall_mem_cons]
    exact ⟨⟨r, hr⟩, h.answered⟩

/-- Along a chain all shapes below the first one, but for the last, have distinct identifiers that
do not occur above them: a directive that nests further may not lead back. -/
lemma interior_of_chain (hs : s.IdConsistent) (ss : List CollectionShape) :
    ∀ (above : List String) (raw : Collection) (e : Entry),
      List.IsChain Embeds ((resolve (some s) above raw e).value :: ss) →
      Interior s ((resolve (some s) above raw e).value.collectionId :: above) ss.dropLast := by
  induction ss with
  | nil => exact fun _ _ _ _ => Interior.nil s _
  | cons x r ih =>
      intro above raw e hc
      obtain ⟨hx, hr⟩ := List.isChain_cons_cons.mp hc
      obtain ⟨f, d, t, c, hres, rfl⟩ := exists_resolves_of_embeds hx
      cases r with
      | nil => exact Interior.nil s _
      | cons y r' =>
          -- another shape follows, so that the directive nests further
          have hnested : d.nested ≠ [] :=
            references_ne_nil_of_embeds (List.isChain_cons_cons.mp hr).1
          have hans : s.Answers t c := Source.answers_of_ask hres.found
          have hid : (resolve (some s) ((resolve (some s) above raw e).value.collectionId :: above)
              c (nestedEntry (orElse c.id t) d)).value.collectionId = t := by
            rw [resolve_collectionId]
            exact (orElse_orElse c.id t).trans (hs.orElse_eq hans)
          rw [List.dropLast_cons_cons]
          refine (ih _ _ _ hr).cons ?_ (hid.symm ▸ hans)
          rw [hid]
          exact fun hmem => hres.leads.2.2 ⟨hmem, hnested⟩

/-- **Cyclic references cannot blow up**: with a store that is consistent in its identifiers, only
the last shape of a chain below a resolved collection may repeat an identifier, so that a chain has
at most one shape more below its root than the store answers identifiers. -/
theorem nodup_dropLast_and_length_le (hs : s.IdConsistent) (c : Collection) (e : Entry)
    (ss : List CollectionShape)
    (hc : List.IsChain Embeds ((resolve (some s) [] c e).value :: ss)) :
    ((((resolve (some s) [] c e).value :: ss).dropLast).map (·.collectionId)).Nodup ∧
      ∀ ids : Finset String, (∀ t r, s.Answers t r → t ∈ ids) → ss.length ≤ ids.card + 1 := by
  have hint := interior_of_chain hs ss [] c e hc
  constructor
  · cases ss with
    | nil => simp
    | cons x r =>
        rw [List.dropLast_cons_cons, List.map_cons, List.nodup_cons]
        refine ⟨?_, hint.nodup⟩
        intro hmem
        obtain ⟨y, hy, heq⟩ := List.mem_map.mp hmem
        exact hint.fresh y hy (heq ▸ List.mem_cons_self)
  · intro ids hids
    have hsub : (ss.dropLast.map (·.collectionId)).toFinset ⊆ ids := by
      intro t ht
      obtain ⟨y, hy, rfl⟩ := List.mem_map.mp (List.mem_toFinset.mp ht)
      obtain ⟨r, hr⟩ := hint.answered y hy
      exact hids _ r hr
    have hcard := Finset.card_le_card hsub
    rw [List.toFinset_card_of_nodup hint.nodup, List.length_map, List.length_dropLast] at hcard
    omega

/-! ### The sample -/

namespace Sample

lemma idConsistent : source.IdConsistent := by
  intro t r hr
  rcases eq_of_answers hr with ⟨rfl, rfl⟩ | ⟨rfl, rfl⟩ <;> exact Or.inl rfl

/-- The posts, their author, and the author's posts. -/
lemma chain : List.IsChain Embeds [tree, innerAuthors, innerPosts] := by
  refine List.isChain_cons_cons.mpr ⟨⟨_, List.mem_cons_self, rfl⟩, ?_⟩
  exact List.isChain_cons_cons.mpr ⟨⟨_, List.mem_cons_self, rfl⟩, .singleton _⟩

end Sample

theorem nodup_dropLast_and_length_le_sample :
    Sample.source.IdConsistent ∧
      List.IsChain Embeds [Sample.tree, Sample.innerAuthors, Sample.innerPosts] ∧
      ["Posts", "Authors"].Nodup ∧
      ∀ ids : Finset String, (∀ t r, Sample.source.Answers t r → t ∈ ids) → 2 ≤ ids.card + 1 := by
  have hc := Sample.chain
  rw [← Sample.resolve_posts] at hc
  have h := nodup_dropLast_and_length_le Sample.idConsistent Sample.posts Sample.entry
    [Sample.innerAuthors, Sample.innerPosts] hc
  rw [Sample.resolve_posts] at h
  exact ⟨Sample.idConsistent, Sample.chain, h⟩

end WidgetContracts
