/-
A batch of contracts is made of what each of its entries gives alone.

* `Entry.asksFor`, `Entry.contracts`: what a single entry gives for a widget.
* `selectBy_eq_ok`: a selection over entries that all have an answer.
* `generate_value`, `generateAll_value`: both ways to generate give what the accepted entries give,
  one after another.
* `batch_eq_concat`: a batch never fails, and is the concatenation of the batches of its members.
* `generateAll_eq_generate`: a batch holds what generating each widget alone gives.
-/
import Mathlib.Data.List.Basic
import WidgetContracts.Generate
import WidgetContracts.Proofs.Entry.Accepted
import WidgetContracts.Proofs.Resolve.Field

namespace WidgetContracts

lemma Widget.mem_all (w : Widget) : w ∈ Widget.all := by
  cases w <;> decide

/-! ### What one entry gives -/

namespace Entry

/-- Whether an entry has components that ask for a widget. -/
def asksFor (w : Widget) (e : Entry) : Bool := e.components.any (·.want w)

/-- Whether an entry has components that ask for any widget. -/
def asksForAny (e : Entry) : Bool := e.components.any fun c => !c.wanted.isEmpty

/-- The contracts of a widget that an entry gives: one if the entry asks for it and its collection
can be had, else none. -/
def contracts (source : Source) (w : Widget) (e : Entry) : List Contract :=
  if e.asksFor w then ((shapeOf source e).value.map (·.contract w)).toList else []

variable {e : Entry} {c : Components}

lemma wants_eq_ok (h : e.components = some c) (w : Widget) : wants w e = .ok (e.asksFor w) := by
  rw [wants, requireComponents, asksFor, h]
  rfl

lemma wanted_eq_ok (h : e.components = some c) : e.wanted = .ok c.wanted := by
  rw [wanted, requireComponents, h]
  rfl

lemma wantsAny_eq_ok (h : e.components = some c) : e.wantsAny = .ok e.asksForAny := by
  rw [wantsAny, wanted_eq_ok h, asksForAny, h]
  rfl

/-- An entry that asks for a widget asks for any. -/
lemma asksForAny_of_asksFor {w : Widget} (h : e.asksFor w = true) : e.asksForAny = true := by
  rw [asksFor, Option.any_eq_true] at h
  obtain ⟨c, hc, hw⟩ := h
  have hmem : w ∈ c.wanted := List.mem_filter.mpr ⟨w.mem_all, hw⟩
  rw [asksForAny, hc]
  simpa using List.ne_nil_of_mem hmem

/-- An entry that asks for no widget at all gives none. -/
lemma contracts_of_not_asksForAny (source : Source) (w : Widget) (h : e.asksForAny ≠ true) :
    e.contracts source w = [] := by
  rw [contracts, if_neg (mt asksForAny_of_asksFor h)]

end Entry

/-! ### Selecting entries -/

/-- What the selected members of a list give, gathered from all members. -/
lemma flatMap_filter_eq {α β : Type} (p : α → Bool) (f : α → List β) (l : List α) :
    (l.filter p).flatMap f = l.flatMap fun a => if p a then f a else [] := by
  induction l with
  | nil => rfl
  | cons a r ih =>
      rw [List.filter_cons, List.flatMap_cons, ← ih]
      split
      · rw [List.flatMap_cons]
      · rfl

/-- Where the condition has an answer for all entries, the selection is a filter. -/
lemma selectBy_eq_ok {p : Entry → Except NoComponents Bool} {q : Entry → Bool} {es : List Entry}
    (h : ∀ e ∈ es, p e = .ok (q e)) : selectBy p es = .ok (es.filter q) := by
  induction es with
  | nil => rfl
  | cons e r ih =>
      rw [List.forall_mem_cons] at h
      rw [selectBy, h.1, ih h.2, List.filter_cons]
      rfl

/-! ### Shapes of entries -/

/-- The shape of an entry is that of the collection that is found under its identifier. -/
lemma shapeOf_eq_some_iff {source : Source} {e : Entry} {s : CollectionShape} :
    (shapeOf source e).value = some s ↔
      ∃ c, (source.ask e.collectionId).value = .found c ∧
        (resolve (some source) [] c e).value = s := by
  rw [shapeOf, Traced.bind_value]
  cases h : (source.ask e.collectionId).value with
  | found c => simp
  | unknown | late | failed => simp [Traced.logging]

lemma shapesOf_value (source : Source) (es : List Entry) :
    (shapesOf source es).value = es.filterMap fun e => (shapeOf source e).value := by
  rw [shapesOf, Traced.bind_value, Traced.pure_value, Traced.traverse_value, List.filterMap_map]
  rfl

lemma shapesOf_records (source : Source) (es : List Entry) :
    (shapesOf source es).records = es.flatMap fun e => (shapeOf source e).records := by
  rw [shapesOf, Traced.bind_records, Traced.traverse_records, Traced.pure_records, List.append_nil]

lemma shapesOf_asked (source : Source) (es : List Entry) :
    (shapesOf source es).asked = es.flatMap fun e => (shapeOf source e).asked := by
  rw [shapesOf, Traced.bind_asked, Traced.traverse_asked, Traced.pure_asked, List.append_nil]

/-- A shape keeps its entry. -/
lemma entry_of_shapeOf {source : Source} {e : Entry} {s : CollectionShape}
    (h : (shapeOf source e).value = some s) : s.entry = e := by
  obtain ⟨c, -, rfl⟩ := shapeOf_eq_some_iff.mp h
  exact resolve_entry _ _ _ _

/-! ### One widget -/

lemma build_value (w : Widget) (s : CollectionShape) : (build w s).value = s.contract w := rfl

/-- The contracts of selected entries, gathered per entry. -/
lemma map_filterMap_shapeOf (source : Source) (w : Widget) (es : List Entry) :
    ((es.filter (·.asksFor w)).filterMap fun e => (shapeOf source e).value).map (·.contract w) =
      es.flatMap (Entry.contracts source w) := by
  induction es with
  | nil => rfl
  | cons e r ih =>
      rw [List.flatMap_cons, ← ih, Entry.contracts, List.filter_cons]
      by_cases hw : e.asksFor w = true
      · rw [if_pos hw, if_pos hw, List.filterMap_cons]
        cases (shapeOf source e).value with
        | none => rfl
        | some s => rfl
      · rw [if_neg hw, if_neg hw, List.nil_append]

/-- Generating one widget gives what the accepted entries give, one after another. -/
theorem generate_value (source : Source) (w : Widget) (es : List Entry) :
    (generate source w es).value =
      .ok ((acceptedEntries es).value.flatMap (Entry.contracts source w)) := by
  have hselect : selectBy (Entry.wants w) (acceptedEntries es).value =
      .ok ((acceptedEntries es).value.filter (·.asksFor w)) := by
    refine selectBy_eq_ok ?_
    intro e he
    obtain ⟨c, hc⟩ := Option.isSome_iff_exists.mp (components_isSome_of_accepted he)
    exact Entry.wants_eq_ok hc w
  rw [generate, Traced.bind_value, hselect]
  simp only [Traced.bind_value, Traced.pure_value, Traced.traverse_value, shapesOf_value,
    build_value]
  rw [map_filterMap_shapeOf]

/-! ### All widgets -/

lemma buildWanted_value {s : CollectionShape} {c : Components} (h : s.entry.components = some c) :
    (buildWanted s).value = .ok (c.wanted.map fun w => (w, s.contract w)) := by
  rw [buildWanted, Entry.wanted_eq_ok h]
  simp only [Traced.bind_value, Traced.pure_value, Traced.traverse_value, build_value]

lemma buildWanted_records {s : CollectionShape} {c : Components}
    (h : s.entry.components = some c) :
    (buildWanted s).records = c.wanted.map (generatedRecord s) := by
  rw [buildWanted, Entry.wanted_eq_ok h]
  simp only [Traced.bind_records, Traced.traverse_records, Traced.pure_records, List.append_nil]
  exact List.map_eq_flatMap.symm

/-- Nothing is asked for to build contracts. -/
lemma buildWanted_asked (s : CollectionShape) : (buildWanted s).asked = [] := by
  rw [buildWanted]
  split
  · rfl
  · rw [Traced.bind_asked, Traced.traverse_asked, Traced.pure_asked, List.append_nil,
      List.flatMap_eq_nil_iff]
    exact fun w _ => rfl

lemma filter_wanted_beq (c : Components) (w : Widget) :
    c.wanted.filter (· == w) = if c.want w then [w] else [] := by
  rw [Components.wanted, List.filter_filter]
  cases w <;> simp [Widget.all, List.filter_cons]

/-- Among all contracts of a shape, those of one widget. -/
lemma ofWidget_map_wanted (c : Components) (s : CollectionShape) (w : Widget) :
    ofWidget w (c.wanted.map fun v => (v, s.contract v)) =
      if c.want w then [s.contract w] else [] := by
  rw [ofWidget, List.filter_map, List.map_map]
  change (c.wanted.filter (· == w)).map s.contract = _
  rw [filter_wanted_beq]
  split <;> rfl

lemma ofWidget_append (w : Widget) (as bs : List (Widget × Contract)) :
    ofWidget w (as ++ bs) = ofWidget w as ++ ofWidget w bs := by
  rw [ofWidget, List.filter_append, List.map_append]
  rfl

/-- The contracts of all shapes of entries with components, gathered without failing: of each
widget there are those that the entries give. -/
lemma mapM_buildWanted (source : Source) (es : List Entry)
    (h : ∀ e ∈ es, e.components.isSome = true) :
    ∃ built : List (List (Widget × Contract)),
      ((es.filterMap fun e => (shapeOf source e).value).map fun s => (buildWanted s).value).mapM id =
        .ok built ∧
      ∀ w, ofWidget w built.flatten = es.flatMap (Entry.contracts source w) := by
  induction es with
  | nil => exact ⟨[], rfl, fun w => rfl⟩
  | cons e r ih =>
      rw [List.forall_mem_cons] at h
      obtain ⟨built, hbuilt, hof⟩ := ih h.2
      obtain ⟨c, hc⟩ := Option.isSome_iff_exists.mp h.1
      rw [List.filterMap_cons]
      cases hs : (shapeOf source e).value with
      | none =>
          refine ⟨built, hbuilt, fun w => ?_⟩
          rw [List.flatMap_cons, Entry.contracts, hs, hof]
          split <;> rfl
      | some s =>
          have hsc : s.entry.components = some c := by rw [entry_of_shapeOf hs, hc]
          refine ⟨(c.wanted.map fun w => (w, s.contract w)) :: built, ?_, fun w => ?_⟩
          · rw [List.map_cons, List.mapM_cons, hbuilt, buildWanted_value hsc]
            rfl
          · rw [List.flatten_cons, ofWidget_append, ofWidget_map_wanted, hof, List.flatMap_cons,
              Entry.contracts, Entry.asksFor, hc, hs]
            rfl

/-- The entries that ask for no widget give nothing, so that leaving them out changes nothing. -/
lemma flatMap_contracts_filter (source : Source) (w : Widget) (es : List Entry) :
    (es.filter Entry.asksForAny).flatMap (Entry.contracts source w) =
      es.flatMap (Entry.contracts source w) := by
  rw [flatMap_filter_eq]
  refine List.flatMap_congr fun e _ => ?_
  split
  · rfl
  · next h => exact (Entry.contracts_of_not_asksForAny source w h).symm

/-- The accepted entries that ask for any widget are selected. -/
lemma selectBy_wantsAny (es : List Entry) :
    selectBy Entry.wantsAny (acceptedEntries es).value =
      .ok ((acceptedEntries es).value.filter Entry.asksForAny) := by
  refine selectBy_eq_ok ?_
  intro e he
  obtain ⟨c, hc⟩ := Option.isSome_iff_exists.mp (components_isSome_of_accepted he)
  exact Entry.wantsAny_eq_ok hc

/-- Generating all widgets gives, for each of them, what the accepted entries give, one after
another. -/
theorem generateAll_value (source : Source) (es : List Entry) :
    (generateAll source es).value =
      .ok fun w => (acceptedEntries es).value.flatMap (Entry.contracts source w) := by
  obtain ⟨built, hbuilt, hof⟩ := mapM_buildWanted source
    ((acceptedEntries es).value.filter Entry.asksForAny)
    fun e he => components_isSome_of_accepted ((List.mem_filter.mp he).1)
  rw [generateAll, Traced.bind_value, selectBy_wantsAny]
  simp only [Traced.bind_value, Traced.traverse_value, shapesOf_value, hbuilt, Traced.pure_value]
  refine congrArg Except.ok (funext fun w => ?_)
  rw [hof, flatMap_contracts_filter]

/-! ### Batches -/

/-- **A batch is the concatenation of its members**: the accepted entries stand in the order of the
configuration and have components, neither way to generate fails, and each gives the concatenation
of what it gives for every accepted entry alone. -/
theorem batch_eq_concat (source : Source) (es : List Entry) :
    (acceptedEntries es).value.Sublist es ∧
      (∀ e ∈ (acceptedEntries es).value, e.components.isSome = true) ∧
      (∀ w, ∃ alone : Entry → List Contract,
        (∀ e ∈ (acceptedEntries es).value, (generate source w [e]).value = .ok (alone e)) ∧
          (generate source w es).value = .ok ((acceptedEntries es).value.flatMap alone)) ∧
      ∃ alone : Entry → Batch,
        (∀ e ∈ (acceptedEntries es).value, (generateAll source [e]).value = .ok (alone e)) ∧
          (generateAll source es).value =
            .ok fun w => (acceptedEntries es).value.flatMap fun e => alone e w := by
  refine ⟨?_, fun e he => components_isSome_of_accepted he, fun w => ?_, ?_⟩
  · rw [acceptedEntries_value]
    exact List.filter_sublist
  · refine ⟨Entry.contracts source w, fun e he => ?_, generate_value source w es⟩
    rw [generate_value, acceptedEntries_singleton he, List.flatMap_singleton]
  · refine ⟨fun e w => e.contracts source w, fun e he => ?_, generateAll_value source es⟩
    rw [generateAll_value, acceptedEntries_singleton he]
    simp only [List.flatMap_singleton]

/-! ### The two ways to generate -/

/-- **The two ways to generate agree**: generating all widgets at once never fails, and what it
gives for each widget is what generating that widget alone gives, in the same order. One way selects
the entries that ask for the widget before any collection is asked for, the other selects among the
contracts that were built. -/
theorem generateAll_eq_generate (source : Source) (es : List Entry) :
    ∃ batch : Batch, (generateAll source es).value = .ok batch ∧
      ∀ w, (generate source w es).value = .ok (batch w) := by
  refine ⟨_, generateAll_value source es, fun w => ?_⟩
  exact generate_value source w es

end WidgetContracts
