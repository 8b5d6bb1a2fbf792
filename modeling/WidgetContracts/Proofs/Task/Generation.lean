/-
Generating all contracts with the fetches side by side.

* `Source.reply`, `Source.fetchTask`, `Source.referenceTask`: a fetch, and following a reference, as
  tasks.
* `resolveTask`: resolving a collection, with its fields side by side.
* `shapesTask`, `generateAllTask`: a batch, with its collections side by side.
* `finish_resolveTask`, `finish_generateAllTask`: one after another, the tasks come to what
  resolving and generating come to.
* `completion_order_is_irrelevant`: all runs of a batch end alike, whatever fetch completes first.
-/
import WidgetContracts.Proofs.Generate.Alike
import WidgetContracts.Proofs.Resolve.Traces
import WidgetContracts.Proofs.Task.Steps

namespace WidgetContracts

/-! ### The tasks -/

namespace Source

/-- What comes of a fetch. -/
def reply (s : Source) (id : String) : Answer := (s.store id).answer s.client id

/-- Fetches a collection. Where no time is given, the fetch is not started. -/
def fetchTask (s : Source) (id : String) : Task Answer :=
  if s.hasNoTime then .done .late else .ask id .done

/-- The collection that the reference in a field of `owner` leads to, as a task. -/
def referenceTask (s : Source) (owner : String) (path : List String) (f : Field) (d : Directive) :
    Task (Option (String × Collection)) :=
  let refuse (message : String) : Task (Option (String × Collection)) :=
    .log (.warning owner message) (.done none)
  let target := f.target.getD ""
  if target = "" then
    refuse s!"Field '{f.key}' has no referenced collection, not embedding"
  else if path.contains target && !d.nested.isEmpty then
    refuse s!"Field '{f.key}' would embed {target} recursively, keeping it as a reference"
  else
    (s.fetchTask target).bind fun
      | .found c => .done (some (target, c))
      | .unknown => refuse s!"Referenced collection {target} not found for '{f.key}'"
      | .late => refuse s!"Timed out fetching referenced collection {target} for '{f.key}'"
      | .failed fault =>
        refuse s!"Failed to fetch referenced collection {target} for '{f.key}': {fault.message}"

end Source

/-- The shape of a collection under an entry, as a task: the fields are resolved side by side, and
stand in the shape in their own order. -/
def resolveTask (s : Source) (path : List String) (c : Collection) (e : Entry) :
    Task CollectionShape :=
  let id := orElse c.id e.collectionId
  let path := id :: path
  let fields := c.fields.map fun f =>
    match h : directiveFor? f.key e.references with
    | none => .done (f.shape false none)
    | some d =>
      if f.isEmbeddingOf d then
        (s.referenceTask id path f d).bind fun
          | none => .done (f.shape false none)
          | some (target, referenced) =>
            have := nested_sizeOf_lt h
            (resolveTask s path referenced (nestedEntry (orElse referenced.id target) d)).bind
              fun shape => .done (f.shape true (some shape))
      else .done (f.shape false none)
  (Task.gather fields).bind fun shapes => .done ⟨id, c.displayName, e, shapes⟩
termination_by sizeOf e.references

/-- What comes of processing the collection of an entry: its shape, if it can be had, or why the
fetch failed. -/
abbrev Processed := Except FetchFault (Option CollectionShape)

/-- Goes on with the answer to the fetch for an entry. -/
def answeredTask (s : Source) (e : Entry) : Answer → Task Processed
  | .found c => (resolveTask s [] c e).bind fun shape => .done (.ok (some shape))
  | .unknown =>
    .log (.warning e.collectionId "Collection not found, skipping") (.done (.ok none))
  | .late =>
    .log (.warning e.collectionId "Timed out fetching collection schema") (.done (.ok none))
  | .failed fault => .done (.error fault)

/-- Processes the collection of an entry. -/
def processTask (s : Source) (e : Entry) : Task Processed :=
  (s.fetchTask e.collectionId).bind (answeredTask s e)

/-- The shape that came of processing the collection of an entry, if any; a failure is logged. -/
def Entry.collected (e : Entry) : Processed → Traced (Option CollectionShape)
  | .ok shape => pure shape
  | .error fault => Traced.logging (failedRecord e fault) none

/-- The shapes that came of processing the collections of entries. -/
def collect : List (Entry × Processed) → Traced (List CollectionShape)
  | [] => pure []
  | (e, processed) :: r => do
    let shape ← e.collected processed
    let shapes ← collect r
    return shape.toList ++ shapes

/-- The shapes of the collections of entries, as a task: all are processed side by side, and what
failed is logged when all are done. -/
def shapesTask (s : Source) (es : List Entry) : Task (List CollectionShape) :=
  (Task.gather (es.map (processTask s))).bind fun processed => .write (collect (es.zip processed))

/-- The contracts that are wanted of shapes. -/
def buildAll (shapes : List CollectionShape) : Traced (Except NoComponents Batch) := do
  let built ← Traced.traverse buildWanted shapes
  match built.mapM id with
  | .error fault => return .error fault
  | .ok contracts => return .ok fun w => ofWidget w contracts.flatten

/-- All contracts for all entries that may be processed, as a task. -/
def generateAllTask (s : Source) (es : List Entry) : Task (Except NoComponents Batch) :=
  (Task.write (acceptedEntries es)).bind fun accepted =>
    match selectBy Entry.wantsAny accepted with
    | .error fault => .done (.error fault)
    | .ok selected => (shapesTask s selected).bind fun shapes => .write (buildAll shapes)

/-! ### What the tasks come to -/

section

variable {s : Source}

lemma finish_fetchTask (id : String) : (s.fetchTask id).finish s.reply = s.ask id := by
  rw [Source.fetchTask, Source.ask]
  split
  · rfl
  · rfl

lemma finish_referenceTask (owner : String) (path : List String) (f : Field) (d : Directive) :
    (s.referenceTask owner path f d).finish s.reply = s.reference owner path f d := by
  rw [Source.referenceTask, Source.reference]
  split
  · rfl
  split
  · rfl
  · rw [Task.finish_bind, finish_fetchTask]
    refine congrArg _ (funext fun answer => ?_)
    cases answer with
    | found | unknown | late | failed => rfl

/-- The field as a directive has it resolved, as a task. -/
def taskUnder (s : Source) (owner : String) (path : List String) (f : Field) (d : Directive) :
    Task (FieldShape CollectionShape) :=
  if f.isEmbeddingOf d then
    (s.referenceTask owner path f d).bind fun
      | none => .done (f.shape false none)
      | some (target, r) =>
        (resolveTask s path r (nestedEntry (orElse r.id target) d)).bind
          fun shape => .done (f.shape true (some shape))
  else .done (f.shape false none)

/-- The resolved field as a task: without a directive it stays as it is. -/
def fieldTask (s : Source) (owner : String) (path : List String) (ds : List Directive) (f : Field) :
    Task (FieldShape CollectionShape) :=
  match directiveFor? f.key ds with
  | none => .done (f.shape false none)
  | some d => taskUnder s owner path f d

section

variable {owner : String} {path : List String} {ds : List Directive} {f : Field}

lemma fieldTask_of_none (h : directiveFor? f.key ds = none) :
    fieldTask s owner path ds f = .done (f.shape false none) := by
  rw [fieldTask, h]

lemma fieldTask_of_some {d : Directive} (h : directiveFor? f.key ds = some d) :
    fieldTask s owner path ds f = taskUnder s owner path f d := by
  rw [fieldTask, h]

end

/-- Resolving a collection is resolving its fields side by side. -/
lemma resolveTask_eq (path : List String) (c : Collection) (e : Entry) :
    resolveTask s path c e =
      (Task.gather (c.fields.map (fieldTask s (orElse c.id e.collectionId)
        (orElse c.id e.collectionId :: path) e.references))).bind fun shapes =>
          .done ⟨orElse c.id e.collectionId, c.displayName, e, shapes⟩ := by
  rw [resolveTask]
  congr 3
  funext f
  split
  · next h => exact (fieldTask_of_none h).symm
  · next d h => exact (fieldTask_of_some h).symm

/-- The step: the task for a field comes to the resolved field, if the tasks for the collections
embedded in it do. -/
lemma finish_fieldTask {owner : String} {path : List String} {ds : List Directive}
    (ih : ∀ d ∈ ds, ∀ id path c, (resolveTask s path c (nestedEntry id d)).finish s.reply =
      resolve (some s) path c (nestedEntry id d)) (f : Field) :
    (fieldTask s owner path ds f).finish s.reply = resolveField (some s) owner path ds f := by
  cases hlast : directiveFor? f.key ds with
  | none =>
      rw [fieldTask_of_none hlast, resolveField_of_none hlast]
      rfl
  | some d =>
      rw [fieldTask_of_some hlast, resolveField_of_some hlast, taskUnder, resolveUnder]
      split
      · rw [Task.finish_bind, finish_referenceTask]
        refine congrArg _ (funext fun followed => ?_)
        cases followed with
        | none => rfl
        | some found =>
            obtain ⟨target, r⟩ := found
            simp only [Task.finish_bind, ih d (mem_of_directiveFor? hlast).1]
            rfl
      · rfl

/-- Resolving a collection with its fields side by side comes to what resolving it field by field
comes to, by induction on the directives. -/
theorem finish_resolveTask (e : Entry) : ∀ (path : List String) (c : Collection),
    (resolveTask s path c e).finish s.reply = resolve (some s) path c e := by
  induction e using Entry.ind with
  | _ e ih =>
      intro path c
      rw [resolveTask_eq, Task.finish_bind, Task.finish_gather, resolve_eq]
      simp only [finish_fieldTask ih]
      rfl

/-- Processing the collection of an entry, and then logging a failure, comes to its shape. -/
lemma shapeOf_eq_processTask (e : Entry) :
    shapeOf s e = (do
      let processed ← (processTask s e).finish s.reply
      e.collected processed) := by
  rw [shapeOf, processTask, Task.finish_bind, finish_fetchTask, Traced.bind_assoc]
  refine congrArg _ (funext fun answer => ?_)
  cases answer with
  | found c =>
      simp only [answeredTask, Task.finish_bind, finish_resolveTask, Traced.bind_assoc]
      rfl
  | unknown | late | failed => rfl

lemma collect_asked (l : List (Entry × Processed)) : (collect l).asked = [] := by
  induction l with
  | nil => rfl
  | cons x r ih =>
      obtain ⟨e, processed⟩ := x
      have hone : (e.collected processed).asked = [] := by
        cases processed with
        | ok | error => rfl
      rw [collect, Traced.bind_asked, hone, Traced.bind_asked, ih]
      rfl

lemma finish_shapesTask (es : List Entry) : (shapesTask s es).finish s.reply = (do
    let processed ← Traced.traverse (fun e => (processTask s e).finish s.reply) es
    collect (es.zip processed)) := by
  rw [shapesTask, Task.finish_bind, Task.finish_gather]
  exact congrArg _ (funext fun _ => Task.finish_write (collect_asked _))

/-- The shapes of the first entry and of the others. -/
lemma shapesOf_cons (e : Entry) (r : List Entry) : shapesOf s (e :: r) = (do
    let shape ← shapeOf s e
    let shapes ← shapesOf s r
    return shape.toList ++ shapes) := by
  simp only [shapesOf, Traced.traverse, Traced.bind_assoc, Traced.pure_bind]
  refine congrArg _ (funext fun shape => congrArg _ (funext fun shapes => ?_))
  cases shape with
  | none | some => rfl

/-- The shapes of a batch that is processed side by side are those of the batch. Failures are logged
when all is done, instead of one by one. -/
lemma finish_shapesTask_reorders (es : List Entry) :
    ((shapesTask s es).finish s.reply).Reorders (shapesOf s es) := by
  rw [finish_shapesTask]
  induction es with
  | nil => exact .refl _
  | cons e r ih =>
      rw [shapesOf_cons, shapeOf_eq_processTask, Traced.bind_assoc]
      simp only [Traced.traverse, Traced.bind_assoc, Traced.pure_bind, List.zip_cons_cons, collect]
      refine .bind (.refl _) fun processed => ?_
      refine (Traced.Reorders.swap _ _ _).trans (.bind (.refl _) fun shape => ?_)
      rw [← Traced.bind_assoc]
      exact ih.bind fun shapes => .refl _

lemma buildAll_asked (shapes : List CollectionShape) : (buildAll shapes).asked = [] := by
  rw [buildAll, Traced.bind_asked, Traced.traverse_asked,
    List.flatMap_eq_nil_iff.mpr fun shape _ => buildWanted_asked shape]
  split
  · rfl
  · rfl

/-- A batch whose collections are processed side by side comes to the batch. -/
theorem finish_generateAllTask (es : List Entry) :
    ((generateAllTask s es).finish s.reply).Reorders (generateAll s es) := by
  rw [generateAllTask, Task.finish_bind, Task.finish_write (acceptedEntries_asked es), generateAll]
  refine .bind (.refl _) fun accepted => ?_
  cases selectBy Entry.wantsAny accepted with
  | error fault => exact .refl _
  | ok selected =>
      rw [Task.finish_bind]
      refine (finish_shapesTask_reorders selected).bind fun shapes => ?_
      rw [Task.finish_write (buildAll_asked shapes)]
      exact .refl _

end

/-- **Completion order is irrelevant**: at any time any fetch that is under way may be the next to
complete. Whatever the order, a run of a batch with no step left has the contracts of the batch,
which stand in the order of the entries, and has written its records and started its fetches, in
some order. Every run goes on to such an end, which it reaches after a number of steps that is the
same for all. -/
theorem completion_order_is_irrelevant (s : Source) (es : List Entry) {events : List Event}
    {t : Task (Except NoComponents Batch)}
    (h : Task.Run s.reply (generateAllTask s es) events t) :
    (∀ id, (∃ u, Task.Step s.reply t (.completed id) u) ↔ id ∈ t.outstanding) ∧
    ∃ batch : Batch, (generateAll s es).value = .ok batch ∧
      (∀ w, batch w = (acceptedEntries es).value.flatMap (Entry.contracts s w)) ∧
      (Task.Stuck s.reply t → t = .done (.ok batch) ∧
        (events.filterMap Event.record?).Perm (generateAll s es).records ∧
        (events.filterMap Event.started?).Perm (generateAll s es).asked) ∧
      (Task.Stuck s.reply t ↔ events.length = (generateAllTask s es).size s.reply) ∧
      ∃ more, Task.Run s.reply (generateAllTask s es) (events ++ more) (.done (.ok batch)) := by
  have hfinish := finish_generateAllTask (s := s) es
  have hvalue := hfinish.value.trans (generateAll_value s es)
  obtain ⟨hend, hlength, hmore⟩ := h.of_stuck
  rw [hvalue] at hend hmore
  refine ⟨fun id => Task.exists_step_completed_iff, _, generateAll_value s es, fun w => rfl,
    fun hstuck => ?_, hlength, hmore⟩
  obtain ⟨ht, hrecords, hasked⟩ := hend hstuck
  exact ⟨ht, hrecords.trans hfinish.records, hasked.trans hfinish.asked⟩

/-! ### Presses that are missed before the posts are found -/

namespace Sample

lemma processTask_eq (e : Entry) :
    processTask source e = .ask e.collectionId (answeredTask source e) := by
  rw [processTask, Source.fetchTask, givesTime.hasNoTime_eq_false]
  rfl

lemma accepted_entries : acceptedEntries entries = ⟨entries, [], []⟩ := by
  rw [acceptedEntries, entries, acceptedAmong, if_pos (by decide), acceptedAmong,
    if_pos (by decide)]
  rfl

/-- The fetch of the posts starts first and completes last. -/
lemma exists_run_entries : ∃ t, Task.Run source.reply (generateAllTask source entries)
    [.started "Posts", .started "Presses", .completed "Presses",
      .wrote (.warning "Presses" "Collection not found, skipping"), .completed "Posts"] t := by
  rw [generateAllTask, accepted_entries]
  change ∃ t, Task.Run _ (.both (processTask source _) (.both (processTask source _) _ _) _) _ t
  rw [processTask_eq, processTask_eq]
  exact ⟨_, .head (.left .start) <| .head (.right (.left .start)) <|
    .head (.right (.left .complete)) <| .head (.right (.left .log)) <|
    .head (.left .complete) <| .refl _⟩

end Sample

theorem completion_order_is_irrelevant_sample :
    ∃ events t,
      Task.Run Sample.source.reply (generateAllTask Sample.source Sample.entries) events t ∧
      Task.Stuck Sample.source.reply t ∧
      ["Posts", "Presses"] <+: events.filterMap Event.started? ∧
      ["Presses", "Posts"] <+: events.filterMap Event.completed? ∧
      (events.filterMap Event.record?).Perm (generateAll Sample.source Sample.entries).records ∧
      (events.filterMap Event.started?).Perm (generateAll Sample.source Sample.entries).asked := by
  obtain ⟨t, hrun⟩ := Sample.exists_run_entries
  obtain ⟨-, batch, -, -, -, -, more, hmore⟩ :=
    completion_order_is_irrelevant Sample.source Sample.entries hrun
  obtain ⟨-, batch', -, -, hend, -, -⟩ :=
    completion_order_is_irrelevant Sample.source Sample.entries hmore
  obtain ⟨-, hrecords, hasked⟩ := hend (Task.stuck_done _)
  refine ⟨_, _, hmore, Task.stuck_done _, ?_, ?_, hrecords, hasked⟩
  · rw [List.filterMap_append]
    exact List.prefix_append _ _
  · rw [List.filterMap_append]
    exact List.prefix_append _ _

end WidgetContracts
