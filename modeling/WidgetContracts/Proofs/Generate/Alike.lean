/-
Only what the store gives matters.

* `Source.Alike`: two sources find the same collections, whatever else they answer.
* `Source.Alike.reference_agrees`, `Source.Alike.resolve_agrees`: following a reference, and
  resolving a collection, agree over sources that are alike.
* `Source.Alike.generateAll_agrees`: so does a whole batch.
* `same_gifts_same_contracts`: over stores that give the same collections, all contracts are the
  same, and the same collections are asked for.
-/
import WidgetContracts.Proofs.Generate.Batch
import WidgetContracts.Proofs.Log.Agreement
import WidgetContracts.Proofs.Resolve.Nodes
import WidgetContracts.Proofs.Resolve.Traces
import WidgetContracts.Proofs.Store.Outcomes

namespace WidgetContracts

/-- Two sources are alike: both give time or neither does, and they find the same collections. Where
one finds none, they may differ in why. -/
structure Source.Alike (s s' : Source) : Prop where
  time : s.hasNoTime = s'.hasNoTime
  finds : ∀ id c, (s.ask id).value = .found c ↔ (s'.ask id).value = .found c

/-- With time, stores that give the same collections make sources alike. -/
lemma Source.alike_of_gives {s s' : Source} (hs : s.GivesTime) (hs' : s'.GivesTime)
    (hgives : ∀ id c,
      (s.store id).Gives s.client id c ↔ (s'.store id).Gives s'.client id c) : s.Alike s' := by
  refine ⟨hs.hasNoTime_eq_false.trans hs'.hasNoTime_eq_false.symm, fun id c => ?_⟩
  calc (s.ask id).value = .found c
      ↔ (s.store id).Gives s.client id c :=
        (ask_found_iff hs).trans Outcome.answer_eq_found_iff
    _ ↔ (s'.store id).Gives s'.client id c := hgives id c
    _ ↔ (s'.ask id).value = .found c :=
        ((ask_found_iff hs').trans Outcome.answer_eq_found_iff).symm

/-- Two stores that answer with one collection give the same under its identifier. -/
lemma Source.Answers.gives_iff {s s' : Source} {id : String} {c : Collection} (h : s.Answers id c)
    (h' : s'.Answers id c) (d : Collection) :
    (s.store id).Gives s.client id d ↔ (s'.store id).Gives s'.client id d := by
  rw [Answers] at h h'
  rw [← Outcome.answer_eq_found_iff, ← Outcome.answer_eq_found_iff, h, h']

/-! ### Two runs over sources that are alike -/

/-- Without a collection there is no shape, and nothing is asked for beyond the collection. -/
lemma shapeOf_agrees_of_missed {s : Source} {e : Entry}
    (h : ∀ c, (s.ask e.collectionId).value ≠ .found c) :
    (shapeOf s e).Agrees ⟨none, [], (s.ask e.collectionId).asked⟩ := by
  rw [shapeOf, Traced.bind_eq]
  cases hask : (s.ask e.collectionId).value with
  | found c => exact absurd hask (h c)
  | unknown | late | failed => exact ⟨rfl, List.append_nil _⟩

namespace Source.Alike

variable {s s' : Source}

/-- Both sources ask for the same. -/
lemma ask_asked (h : s.Alike s') (id : String) : (s.ask id).asked = (s'.ask id).asked := by
  rw [Source.ask_asked, Source.ask_asked, h.time]

/-- Following a reference finds the same collection over both sources, or none over either. -/
lemma reference_agrees (h : s.Alike s') (owner : String) (path : List String) (f : Field)
    (d : Directive) :
    (s.reference owner path f d).Agrees (s'.reference owner path f d) := by
  have htrace := s.reference_trace owner path f d
  have htrace' := s'.reference_trace owner path f d
  generalize s.reference owner path f d = run at htrace ⊢
  generalize s'.reference owner path f d = run' at htrace' ⊢
  cases htrace with
  | @found t c leads found =>
      cases htrace' with
      | @found t' c' leads' found' =>
          obtain rfl : t = t' := Option.some.inj (leads.target.symm.trans leads'.target)
          obtain rfl : c = c' := Answer.found.inj (((h.finds t c).mp found).symm.trans found')
          exact .refl _
      | refused leads' missed' => exact absurd ((h.finds t c).mp found) (missed' t c leads)
  | @refused r leads missed =>
      cases htrace' with
      | @found t' c' leads' found' =>
          exact absurd ((h.finds t' c').mpr found') (missed t' c' leads')
      | @refused r' leads' missed' =>
          -- the two refusals may differ in why, but not in whether the store was asked
          have hfollowed : r.followed = r'.followed :=
            Option.ext fun t => (leads t).symm.trans (leads' t)
          exact ⟨rfl, by rw [hfollowed, h.time]⟩

/-- The step: a field is resolved in the same way, if the collections embedded in it are. -/
lemma resolveField_agrees (h : s.Alike s') {owner : String} {path : List String}
    {ds : List Directive}
    (ih : ∀ d ∈ ds, ∀ id path c, (resolve (some s) path c (nestedEntry id d)).Agrees
      (resolve (some s') path c (nestedEntry id d))) (f : Field) :
    (resolveField (some s) owner path ds f).Agrees (resolveField (some s') owner path ds f) := by
  cases hlast : directiveFor? f.key ds with
  | none =>
      rw [resolveField_of_none hlast, resolveField_of_none hlast]
      exact .refl _
  | some d =>
      rw [resolveField_of_some hlast, resolveField_of_some hlast, resolveUnder, resolveUnder]
      split
      · refine (h.reference_agrees owner path f d).bind fun followed => ?_
        cases followed with
        | none => exact .refl _
        | some found => exact (ih d (mem_of_directiveFor? hlast).1 _ _ _).bind fun _ => .refl _
      · exact .refl _

/-- A collection is resolved in the same way over both sources, by induction on the directives. -/
theorem resolve_agrees (h : s.Alike s') (e : Entry) :
    ∀ (path : List String) (c : Collection),
      (resolve (some s) path c e).Agrees (resolve (some s') path c e) := by
  induction e using Entry.ind with
  | _ e ih =>
      intro path c
      rw [resolve_eq, resolve_eq]
      refine Traced.Agrees.bind (.traverse fun f _ => ?_) fun _ => .refl _
      exact h.resolveField_agrees ih f

/-- The shape of the collection of an entry is the same over both sources. -/
lemma shapeOf_agrees (h : s.Alike s') (e : Entry) : (shapeOf s e).Agrees (shapeOf s' e) := by
  by_cases hfound : ∃ c, (s.ask e.collectionId).value = .found c
  · obtain ⟨c, hc⟩ := hfound
    have hask : (s.ask e.collectionId).Agrees (s'.ask e.collectionId) :=
      ⟨hc.trans ((h.finds _ c).mp hc).symm, h.ask_asked _⟩
    refine hask.bind fun answer => ?_
    cases answer with
    | found c => exact (h.resolve_agrees e [] c).bind fun _ => .refl _
    | unknown | late | failed => exact .refl _
  · have hmissed := not_exists.mp hfound
    have hmissed' : ∀ c, (s'.ask e.collectionId).value ≠ .found c :=
      fun c hc => hmissed c ((h.finds _ c).mpr hc)
    have hshape' := shapeOf_agrees_of_missed hmissed'
    rw [← h.ask_asked] at hshape'
    exact (shapeOf_agrees_of_missed hmissed).trans hshape'.symm

/-- A batch is the same over both sources. -/
theorem generateAll_agrees (h : s.Alike s') (es : List Entry) :
    (generateAll s es).Agrees (generateAll s' es) := by
  refine (Traced.Agrees.refl (acceptedEntries es)).bind fun accepted => ?_
  cases selectBy Entry.wantsAny accepted with
  | error fault => exact .refl _
  | ok selected =>
      have hshapes : (shapesOf s selected).Agrees (shapesOf s' selected) :=
        Traced.Agrees.bind (.traverse fun e _ => h.shapeOf_agrees e) fun _ => .refl _
      exact hshapes.bind fun _ => .refl _

end Source.Alike

/-- **Only what the store gives matters**: over two stores that give the same collections under the
same identifiers, a batch does not fail and has the same contracts for every widget, and the same
collections are asked for. In which way a store gives nothing shows in the log alone. -/
theorem same_gifts_same_contracts {s s' : Source} (hs : s.GivesTime) (hs' : s'.GivesTime)
    (hgives : ∀ id c,
      (s.store id).Gives s.client id c ↔ (s'.store id).Gives s'.client id c) (es : List Entry) :
    ∃ batch : Batch, (generateAll s es).value = .ok batch ∧
      (generateAll s' es).value = .ok batch ∧
      (generateAll s es).asked = (generateAll s' es).asked := by
  have hagrees := (Source.alike_of_gives hs hs' hgives).generateAll_agrees es
  refine ⟨_, generateAll_value s es, ?_, hagrees.asked⟩
  rw [← hagrees.value]
  exact generateAll_value s es

/-! ### A remote store beside the store of posts and authors -/

namespace Sample

/-- The posts in an envelope, as text. -/
def postsText : String :=
  "\x7b\"collection\":\x7b\"_id\":\"Posts\",\"fields\":[" ++
    "\x7b\"key\":\"author\",\"type\":\"REFERENCE\"," ++
    "\"referencedCollectionId\":\"Authors\"\x7d]\x7d\x7d"

/-- The authors, bare, as text. -/
def authorsText : String :=
  "\x7b\"id\":\"Authors\",\"displayName\":\"Writers\",\"fields\":[" ++
    "\x7b\"key\":\"posts\",\"type\":\"multiReference\"," ++
    "\"referencedCollectionId\":\"Posts\"\x7d]\x7d"

/-- A body with the posts. -/
def postsBody : Body := Text.Utf8.encode postsText.toList

/-- A body with the authors. -/
def authorsBody : Body := Text.Utf8.encode authorsText.toList

/-- A list of one field, which refers to a collection. -/
def referring (key type target : String) : Value :=
  .list [.object [("key", .text key), ("type", .text type), (targetKey, .text target)]]

/-- The posts in their envelope, the bare authors, and an error of the store for anything else. -/
def remoteStore : Store := fun id =>
  if id = "Posts" then .remote (.response 200 postsBody)
  else if id = "Authors" then .remote (.response 200 authorsBody)
  else .remote (.response 503 [])

/-- The remote store, asked without a limit. -/
def remote : Source := ⟨remoteStore, ⟨"key", none, "https://data.example.test", 10⟩, none⟩

/-- Posts with every widget, and presses, which neither store gives. -/
def entries : List Entry :=
  [{ entry with components := some ⟨true, true, false, true, true⟩ },
    ⟨"Presses", "/presses", "slug", [], none, some ⟨true, false, false, false, false⟩⟩]

lemma remote_givesTime : remote.GivesTime := by
  intro t ht
  cases ht

lemma document?_postsBody : postsBody.document? = .ok (.object [("collection", .object
    [("_id", .text "Posts"), ("fields", referring "author" "REFERENCE" "Authors")])]) := by
  have hdecodes : Text.Encoding.decode postsBody = .ok (postsText.toList.map Char.toNat) := by
    decide +kernel
  refine Body.document?_of_text hdecodes ?_
  -- the equation lemma of a text in parts takes long
  delta postsText
  simp only [String.reduceAppend, String.reduceToList, List.map_cons, List.map_nil,
    Char.reduceToNat]
  rfl

-- the text is read character by character, each inside the reading of those before it
set_option maxRecDepth 1000 in
lemma document?_authorsBody : authorsBody.document? = .ok (.object [("id", .text "Authors"),
    ("displayName", .text "Writers"), ("fields", referring "posts" "multiReference" "Posts")]) := by
  have hdecodes : Text.Encoding.decode authorsBody = .ok (authorsText.toList.map Char.toNat) := by
    decide +kernel
  refine Body.document?_of_text hdecodes ?_
  delta authorsText
  simp only [String.reduceAppend, String.reduceToList, List.map_cons, List.map_nil,
    Char.reduceToNat]
  rfl

lemma remote_answers_posts : remote.Answers "Posts" posts :=
  Outcome.answer_eq_found_iff.mpr <|
    .remote rfl rfl rfl ⟨by decide, by decide⟩ document?_postsBody (.envelope rfl rfl)

lemma remote_answers_authors : remote.Answers "Authors" authors :=
  Outcome.answer_eq_found_iff.mpr <|
    .remote rfl rfl rfl ⟨by decide, by decide⟩ document?_authorsBody (.bare rfl rfl)

lemma gives_iff (id : String) (c : Collection) :
    (source.store id).Gives source.client id c ↔ (remote.store id).Gives remote.client id c := by
  by_cases hposts : id = "Posts"
  · subst hposts
    exact answers_posts.gives_iff remote_answers_posts c
  by_cases hauthors : id = "Authors"
  · subst hauthors
    exact answers_authors.gives_iff remote_answers_authors c
  have hmissing : source.store id = .missing := by
    change store id = _
    rw [store, if_neg hposts, if_neg hauthors]
  have hbroken : remote.store id = .remote (.response 503 []) := by
    change remoteStore id = _
    rw [remoteStore, if_neg hposts, if_neg hauthors]
  rw [hmissing, hbroken]
  exact iff_of_false Outcome.not_gives_missing (Outcome.not_gives_of_status (by decide))

end Sample

theorem same_gifts_same_contracts_sample :
    Sample.source.GivesTime ∧ Sample.remote.GivesTime ∧
      (∀ id c, (Sample.source.store id).Gives Sample.source.client id c ↔
        (Sample.remote.store id).Gives Sample.remote.client id c) ∧
      ∃ batch : Batch, (generateAll Sample.source Sample.entries).value = .ok batch ∧
        (generateAll Sample.remote Sample.entries).value = .ok batch ∧
        (generateAll Sample.source Sample.entries).asked =
          (generateAll Sample.remote Sample.entries).asked :=
  ⟨Sample.givesTime, Sample.remote_givesTime, Sample.gives_iff,
    same_gifts_same_contracts Sample.givesTime Sample.remote_givesTime Sample.gives_iff
      Sample.entries⟩

end WidgetContracts
