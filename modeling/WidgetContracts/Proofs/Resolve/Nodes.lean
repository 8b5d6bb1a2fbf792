/-
The nodes of a resolved tree follow the directives of their entries.

* `Node`: the shapes of a resolved tree, each with the identifiers from the root down to it and the
  collection that it is the shape of.
* `Follows`: what the directives of a node demand of a field of its collection and the field of its
  shape.
* `Node.eq_resolve`: every node is the outcome of resolving its collection below its ancestors.
* `exists_field_of_embeds`: what is embedded in a shape was answered for a field of its collection.
* `Node.exists_of_within`: every shape of the tree is a node.
* `fields_follow_directives`: at every node the fields of the shape follow those of the collection.
-/
import Mathlib.Data.List.Forall2
import WidgetContracts.Proofs.Resolve.Field
import WidgetContracts.Proofs.Shape.Nesting

namespace WidgetContracts

/-! ### Nodes -/

/-- The nodes of a tree of shapes with root `root`, which is the shape of the collection `c`: the
identifiers from the root down to the node, nearest first, the collection that the node is the shape
of, and the node. An embedded shape is that of the collection which the store answers for the target
of the reference. -/
inductive Node (s : Source) (c : Collection) (root : CollectionShape) :
    List String → Collection → CollectionShape → Prop
  | root : Node s c root [root.collectionId] c root
  | embedded {path : List String} {raw r : Collection} {shape sub : CollectionShape} {f : Field}
      {g : FieldShape CollectionShape} {t : String} (parent : Node s c root path raw shape)
      (field : (f, g) ∈ raw.fields.zip shape.fields) (target : f.target = some t)
      (answer : s.Answers t r) (inside : g.shape = some sub) :
      Node s c root (sub.collectionId :: path) r sub

/-- What the directives `ds` of a node demand of a field `f` of its collection and the field `g` of
its shape; `path` holds the identifiers from the root down to the node. -/
structure Follows (s : Source) (path : List String) (ds : List Directive) (f : Field)
    (g : FieldShape CollectionShape) : Prop where
  key : g.key = f.key
  displayName : g.displayName = f.displayName
  embedded_iff : g.embedded = true ↔
    ∃ d t r, f.Requested ds d ∧ f.LeadsTo path d t ∧ s.Answers t r
  shape_iff : g.shape.isSome = true ↔ g.embedded = true
  shape_spec : ∀ sub, g.shape = some sub → ∃ d t r,
    f.Requested ds d ∧ f.LeadsTo path d t ∧ s.Answers t r ∧ sub.entry.references = d.nested ∧
      sub.collectionId = orElse r.id t ∧ sub.displayName = r.displayName

/-! ### Fields of a resolved collection -/

section

variable {s : Source} {owner : String} {path : List String} {ds : List Directive} {f : Field}

/-- The fields of a resolved collection are its fields, resolved one by one. -/
lemma resolve_fields (source : Option Source) (path : List String) (c : Collection) (e : Entry) :
    List.Forall₂ (fun f g => g = (resolveField source (resolve source path c e).value.collectionId
      ((resolve source path c e).value.collectionId :: path) e.references f).value)
      c.fields (resolve source path c e).value.fields := by
  rw [resolve_collectionId, resolve_value, List.forall₂_map_right_iff, List.forall₂_same]
  exact fun f _ => rfl

/-- A shape found in a resolved field is that of the collection behind the reference. -/
lemma exists_resolves_of_shape {sub : CollectionShape}
    (h : (resolveField (some s) owner path ds f).value.shape = some sub) :
    ∃ d t r, s.Resolves path ds f d t r ∧
      sub = (resolve (some s) path r (nestedEntry (orElse r.id t) d)).value := by
  by_cases hres : ∃ d t r, s.Resolves path ds f d t r
  · obtain ⟨d, t, r, hr⟩ := hres
    rw [resolveField_of_resolves hr, shape_of_field] at h
    exact ⟨d, t, r, hr, (Option.some.inj h).symm⟩
  · rw [resolveField_of_not_resolves hres] at h
    cases h

lemma orElse_orElse (a b : String) : orElse a (orElse a b) = orElse a b := by
  unfold orElse
  split <;> rfl

/-- A resolved field follows the directives. -/
lemma follows_resolveField (hs : s.GivesTime) :
    Follows s path ds f (resolveField (some s) owner path ds f).value := by
  have hiff : (∃ d t r, s.Resolves path ds f d t r) ↔
      ∃ d t r, f.Requested ds d ∧ f.LeadsTo path d t ∧ s.Answers t r := by
    constructor
    · rintro ⟨d, t, r, hr⟩
      exact ⟨d, t, r, hr.requested, hr.leads, (Source.ask_found_iff hs).mp hr.found⟩
    · rintro ⟨d, t, r, hreq, hleads, hans⟩
      exact ⟨d, t, r, hreq, hleads, (Source.ask_found_iff hs).mpr hans⟩
  by_cases hres : ∃ d t r, s.Resolves path ds f d t r
  · have hspec := hiff.mp hres
    obtain ⟨d, t, r, hr⟩ := hres
    rw [resolveField_of_resolves hr]
    refine ⟨rfl, rfl, iff_of_true rfl hspec, iff_of_true rfl rfl, ?_⟩
    intro sub hsub
    obtain rfl := Option.some.inj hsub
    refine ⟨d, t, r, hr.requested, hr.leads, (Source.ask_found_iff hs).mp hr.found, ?_⟩
    rw [resolve_entry, resolve_collectionId, resolve_displayName]
    exact ⟨rfl, orElse_orElse r.id t, rfl⟩
  · have hnot := mt hiff.mpr hres
    rw [resolveField_of_not_resolves hres]
    refine ⟨rfl, rfl, iff_of_false (by simp [Field.shape]) hnot, ?_, ?_⟩
    · simp [Field.shape]
    · intro sub hsub
      cases hsub

/-- A shape embedded in a resolved collection stands in the field of a reference that resolves, and
is that of the collection behind it. -/
lemma exists_field_of_embeds {above : List String} {raw : Collection} {e : Entry}
    {sub : CollectionShape} (h : (resolve (some s) above raw e).value.Embeds sub) :
    ∃ f g d t r, (f, g) ∈ raw.fields.zip (resolve (some s) above raw e).value.fields ∧
      g.shape = some sub ∧
      s.Resolves ((resolve (some s) above raw e).value.collectionId :: above) e.references
        f d t r ∧
      sub = (resolve (some s) ((resolve (some s) above raw e).value.collectionId :: above) r
        (nestedEntry (orElse r.id t) d)).value := by
  obtain ⟨g, hg, inside⟩ := h
  have hfields := resolve_value (some s) above raw e
  rw [hfields] at hg
  obtain ⟨f, hf, rfl⟩ := List.mem_map.mp hg
  obtain ⟨d, t, r, hr, hsub⟩ := exists_resolves_of_shape inside
  rw [resolve_collectionId]
  refine ⟨f, _, d, t, r, ?_, inside, hr, hsub⟩
  rw [hfields, ← List.map_prod_left_eq_zip]
  exact List.mem_map.mpr ⟨f, hf, rfl⟩

end

/-! ### The tree -/

namespace Node

variable {s : Source} {c : Collection} {e : Entry}

/-- The invariant of the tree: every node is the outcome of resolving its collection below its
ancestors, under an entry that it keeps. -/
lemma eq_resolve {path : List String} {raw : Collection} {shape : CollectionShape}
    (hn : Node s c (resolve (some s) [] c e).value path raw shape) :
    ∃ above e', shape = (resolve (some s) above raw e').value ∧
      path = shape.collectionId :: above := by
  induction hn with
  | root => exact ⟨[], e, rfl, rfl⟩
  | @embedded path raw r shape sub f g t _ field target answer inside ih =>
      obtain ⟨above, e', rfl, rfl⟩ := ih
      have hg := List.forall₂_zip (resolve_fields (some s) above raw e') field
      rw [hg] at inside
      obtain ⟨d, u, r', hr, hsub⟩ := exists_resolves_of_shape inside
      obtain rfl : u = t := Option.some.inj (hr.leads.target.symm.trans target)
      obtain rfl : r' = r := (Source.answers_of_ask hr.found).unique answer
      exact ⟨_, _, hsub, rfl⟩

/-- Every shape of the tree is a node. -/
lemma exists_of_within {t : CollectionShape}
    (ht : t.Within (resolve (some s) [] c e).value) :
    ∃ path raw, Node s c (resolve (some s) [] c e).value path raw t := by
  induction ht with
  | refl => exact ⟨_, _, .root⟩
  | tail _ hembeds ih =>
      obtain ⟨path, raw, hn⟩ := ih
      obtain ⟨above, e', rfl, rfl⟩ := hn.eq_resolve
      obtain ⟨f, g, d, u, r, field, inside, hr, -⟩ := exists_field_of_embeds hembeds
      exact ⟨_, r, hn.embedded field hr.leads.target (Source.answers_of_ask hr.found) inside⟩

end Node

/-- **Embedding follows the directives**: the root keeps its entry, every shape of the tree is a
node, and at every node the fields of the shape are those of the collection, in order, each embedded
exactly when the last directive for it asks for that, the reference may be followed and the store
answers. -/
theorem fields_follow_directives {s : Source} (hs : s.GivesTime) (c : Collection) (e : Entry) :
    (resolve (some s) [] c e).value.entry = e ∧
      (∀ t : CollectionShape, t.Within (resolve (some s) [] c e).value →
        ∃ path raw, Node s c (resolve (some s) [] c e).value path raw t) ∧
      ∀ path raw shape, Node s c (resolve (some s) [] c e).value path raw shape →
        List.Forall₂ (Follows s path shape.entry.references) raw.fields shape.fields := by
  refine ⟨resolve_entry _ _ _ _, fun _ => Node.exists_of_within, ?_⟩
  intro path raw shape hn
  obtain ⟨above, e', rfl, rfl⟩ := hn.eq_resolve
  refine (resolve_fields (some s) above raw e').imp ?_
  rintro f g rfl
  rw [resolve_entry]
  exact follows_resolveField hs

/-! ### Posts and their authors, which refer to each other -/

namespace Sample

/-- Posts refer to their author. -/
def posts : Collection :=
  ⟨"Posts", none, [⟨"author", none, "REFERENCE", false, some "Authors"⟩]⟩

/-- Authors refer to their posts. -/
def authors : Collection :=
  ⟨"Authors", some "Writers", [⟨"posts", none, "multiReference", false, some "Posts"⟩]⟩

/-- A store with posts and authors. -/
def store : Store := fun id =>
  if id = "Posts" then .document posts.toValue
  else if id = "Authors" then .document authors.toValue
  else .missing

/-- The store, asked with a limit of ten seconds. -/
def source : Source := ⟨store, ⟨"key", none, "https://data.example.test", 10⟩, some 10⟩

/-- The posts of an author are embedded in their author, with nothing further. -/
def backward : Directive := ⟨"posts", .embed, []⟩

/-- The author is embedded with all their posts. -/
def forward : Directive := ⟨"author", .embed, [backward]⟩

/-- An entry that first asks for a link to the author, and then for embedding. -/
def entry : Entry :=
  ⟨"Posts", "/posts", "slug", [⟨"author", .link, []⟩, forward], none, some Components.none⟩

/-- The posts in their author. -/
def innerPosts : CollectionShape :=
  ⟨"Posts", none, nestedEntry "Posts" backward,
    [⟨"author", .reference, .string, none, false, none⟩]⟩

/-- The author in a post. -/
def innerAuthors : CollectionShape :=
  ⟨"Authors", some "Writers", nestedEntry "Authors" forward,
    [⟨"posts", .multiReference, .string, none, true, some innerPosts⟩]⟩

/-- The resolved posts. -/
def tree : CollectionShape :=
  ⟨"Posts", none, entry, [⟨"author", .reference, .string, none, true, some innerAuthors⟩]⟩

lemma givesTime : source.GivesTime := by
  intro t ht
  obtain rfl := Option.some.inj ht
  decide

lemma answers_posts : source.Answers "Posts" posts := rfl

lemma answers_authors : source.Answers "Authors" authors := rfl

/-- The source answers with nothing but posts and authors, each under its name. -/
lemma eq_of_answers {id : String} {c : Collection} (h : source.Answers id c) :
    id = "Posts" ∧ c = posts ∨ id = "Authors" ∧ c = authors := by
  by_cases hposts : id = "Posts"
  · subst hposts
    exact Or.inl ⟨rfl, h.unique answers_posts⟩
  by_cases hauthors : id = "Authors"
  · subst hauthors
    exact Or.inr ⟨rfl, h.unique answers_authors⟩
  have hstore : source.store id = .missing := by
    change store id = .missing
    rw [store, if_neg hposts, if_neg hauthors]
  rw [Source.Answers, hstore] at h
  cases h

lemma resolves_backward {f : Field} (hf : f ∈ authors.fields) :
    source.Resolves ["Authors", "Posts"] [backward] f backward "Posts" posts := by
  obtain rfl := List.mem_singleton.mp hf
  exact ⟨⟨⟨by decide, Or.inr rfl⟩, ⟨[], [], rfl, rfl, by simp⟩, rfl⟩,
    ⟨rfl, by decide, fun h => h.2 rfl⟩, (Source.ask_found_iff givesTime).mpr answers_posts⟩

lemma resolves_forward {f : Field} (hf : f ∈ posts.fields) :
    source.Resolves ["Posts"] entry.references f forward "Authors" authors := by
  obtain rfl := List.mem_singleton.mp hf
  exact ⟨⟨⟨by decide, Or.inl rfl⟩, ⟨[⟨"author", .link, []⟩], [], rfl, rfl, by simp⟩, rfl⟩,
    ⟨rfl, by decide, fun h => absurd h.1 (by decide)⟩,
    (Source.ask_found_iff givesTime).mpr answers_authors⟩

lemma resolve_backward :
    (resolve (some source) ["Authors", "Posts"] posts (nestedEntry "Posts" backward)).value =
      innerPosts := by
  rw [resolve_value]
  rfl

lemma resolve_forward :
    (resolve (some source) ["Posts"] authors (nestedEntry "Authors" forward)).value =
      innerAuthors := by
  rw [resolve_value]
  change CollectionShape.mk "Authors" (some "Writers") (nestedEntry "Authors" forward)
    [(resolveField (some source) "Authors" ["Authors", "Posts"] [backward] _).value] = _
  rw [resolveField_of_resolves (resolves_backward List.mem_cons_self)]
  exact congrArg (fun sub => CollectionShape.mk "Authors" (some "Writers")
    (nestedEntry "Authors" forward)
    [⟨"posts", .multiReference, .string, none, true, some sub⟩]) resolve_backward

/-- Resolving the posts gives the tree. -/
lemma resolve_posts : (resolve (some source) [] posts entry).value = tree := by
  rw [resolve_value]
  change CollectionShape.mk "Posts" none entry
    [(resolveField (some source) "Posts" ["Posts"] entry.references _).value] = _
  rw [resolveField_of_resolves (resolves_forward List.mem_cons_self)]
  exact congrArg (fun sub => CollectionShape.mk "Posts" none entry
    [⟨"author", .reference, .string, none, true, some sub⟩]) resolve_forward

/-- The posts in the author of a post are a node of the tree. -/
lemma node_innerPosts :
    Node source posts tree ["Posts", "Authors", "Posts"] posts innerPosts := by
  change Node source posts tree
    [innerPosts.collectionId, innerAuthors.collectionId, tree.collectionId] posts innerPosts
  exact .embedded (.embedded .root List.mem_cons_self rfl answers_authors rfl)
    List.mem_cons_self rfl answers_posts rfl

end Sample

theorem fields_follow_directives_sample :
    Sample.source.GivesTime ∧
      Node Sample.source Sample.posts Sample.tree ["Posts", "Authors", "Posts"] Sample.posts
        Sample.innerPosts ∧
      List.Forall₂ (Follows Sample.source ["Posts", "Authors", "Posts"] [])
        Sample.posts.fields Sample.innerPosts.fields := by
  refine ⟨Sample.givesTime, Sample.node_innerPosts, ?_⟩
  have h := fields_follow_directives Sample.givesTime Sample.posts Sample.entry
  rw [Sample.resolve_posts] at h
  exact h.2.2 _ _ _ Sample.node_innerPosts

end WidgetContracts
