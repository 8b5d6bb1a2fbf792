/-
Tasks that run side by side while they wait for collections.

* `Task`: a computation that writes records, asks for collections, and goes on when both of two
  tasks are done; `Task.bind`, `Task.gather`.
* `Event`, `Task.Step`, `Task.Run`: one task of those that run side by side takes a step, whichever
  it is.
* `Task.exists_step_completed_iff`: any fetch that is under way may be the next to complete.
* `Task.finish`, `Task.size`: what a task comes to when one step follows another in order, and how
  many steps this takes.
* `Task.finish_bind`, `Task.finish_gather`, `Task.finish_write`: what composed tasks come to.
* `Task.Step.finish_reorders`, `Task.Run.finish_reorders`: no step changes what a task comes to.
* `Task.Run.of_stuck`, `Task.exists_run_done`: a run ends with the result of the task, and every run
  comes to its end.
-/
import WidgetContracts.Proofs.Log.Agreement
import WidgetContracts.Store

namespace WidgetContracts

/-- A task: it is done, it writes a record, it is about to ask for a collection, it waits for one it
has asked for, or it runs two tasks side by side and goes on when both are done. -/
inductive Task : Type → Type 1 where
  | done {α : Type} (a : α) : Task α
  | log {α : Type} (r : Record) (rest : Task α) : Task α
  | ask {α : Type} (id : String) (next : Answer → Task α) : Task α
  | waiting {α : Type} (id : String) (next : Answer → Task α) : Task α
  | both {α β γ : Type} (left : Task α) (right : Task β) (join : α → β → Task γ) : Task γ

/-- What can be seen of a step: a record is written, a fetch is started or completes, or two tasks
that ran side by side are both done. -/
inductive Event where
  | wrote (r : Record)
  | started (id : String)
  | completed (id : String)
  | joined
  deriving DecidableEq, Repr

namespace Event

/-- The record that is written. -/
def record? : Event → Option Record
  | wrote r => some r
  | started _ | completed _ | joined => none

/-- The collection for which a fetch is started. -/
def started? : Event → Option String
  | started id => some id
  | wrote _ | completed _ | joined => none

/-- The collection for which a fetch completes. -/
def completed? : Event → Option String
  | completed id => some id
  | wrote _ | started _ | joined => none

/-- Events, as a trace. -/
def trace (events : List Event) : Traced Unit :=
  ⟨(), events.filterMap record?, events.filterMap started?⟩

lemma trace_append (before after : List Event) :
    trace (before ++ after) = (do trace before; trace after) := by
  rw [trace, List.filterMap_append, List.filterMap_append]
  rfl

end Event

namespace Task

variable {α β γ : Type}

/-- A task and then another. -/
def bind (t : Task α) (f : α → Task β) : Task β :=
  match t with
  | done a => f a
  | log r rest => log r (rest.bind f)
  | ask id next => ask id fun a => (next a).bind f
  | waiting id next => waiting id fun a => (next a).bind f
  | both l r join => both l r fun a b => (join a b).bind f

/-- Tasks side by side, with their results in the order of the tasks. -/
def gather : List (Task α) → Task (List α)
  | [] => done []
  | t :: r => both t (gather r) fun a as => done (a :: as)

/-- The records of a trace, and then its value. -/
def write (t : Traced α) : Task α := t.records.foldr log (done t.value)

/-! ### Steps -/

/-- A step of a task, with what is seen of it; `reply` is what comes of each fetch. Of two tasks
side by side, either may take the step. -/
inductive Step (reply : String → Answer) : {α : Type} → Task α → Event → Task α → Prop
  | log {α : Type} {r : Record} {rest : Task α} : Step reply (.log r rest) (.wrote r) rest
  | start {α : Type} {id : String} {next : Answer → Task α} :
      Step reply (.ask id next) (.started id) (.waiting id next)
  | complete {α : Type} {id : String} {next : Answer → Task α} :
      Step reply (.waiting id next) (.completed id) (next (reply id))
  | left {α β γ : Type} {l l' : Task α} {r : Task β} {join : α → β → Task γ} {e : Event}
      (step : Step reply l e l') : Step reply (.both l r join) e (.both l' r join)
  | right {α β γ : Type} {l : Task α} {r r' : Task β} {join : α → β → Task γ} {e : Event}
      (step : Step reply r e r') : Step reply (.both l r join) e (.both l r' join)
  | join {α β γ : Type} {a : α} {b : β} {join : α → β → Task γ} :
      Step reply (.both (.done a) (.done b) join) .joined (join a b)

/-- A run: steps one after another. -/
inductive Run (reply : String → Answer) : Task α → List Event → Task α → Prop
  | refl (t : Task α) : Run reply t [] t
  | head {t u v : Task α} {e : Event} {events : List Event} (step : Step reply t e u)
      (run : Run reply u events v) : Run reply t (e :: events) v

/-- No step is left. -/
def Stuck (reply : String → Answer) (t : Task α) : Prop := ∀ e u, ¬Step reply t e u

/-- The collections for which a fetch is under way. -/
def outstanding {α : Type} : Task α → List String
  | done _ | log _ _ | ask _ _ => []
  | waiting id _ => [id]
  | both l r _ => l.outstanding ++ r.outstanding

/-- Any fetch that is under way may be the next to complete, and no other. -/
theorem exists_step_completed_iff {reply : String → Answer} {t : Task α} {id : String} :
    (∃ u, Step reply t (.completed id) u) ↔ id ∈ t.outstanding := by
  constructor
  · rintro ⟨u, step⟩
    generalize he : Event.completed id = e at step
    induction step with
    | log | start | join => cases he
    | complete =>
        cases he
        exact List.mem_singleton_self _
    | left step ih => exact List.mem_append_left _ (ih he)
    | right step ih => exact List.mem_append_right _ (ih he)
  · intro h
    induction t with
    | done | log | ask => cases h
    | waiting id' next =>
        obtain rfl := List.mem_singleton.mp h
        exact ⟨_, .complete⟩
    | both l r join ihl ihr =>
        rcases List.mem_append.mp h with hl | hr
        · obtain ⟨l', step⟩ := ihl hl
          exact ⟨_, .left step⟩
        · obtain ⟨r', step⟩ := ihr hr
          exact ⟨_, .right step⟩

/-! ### What a task comes to -/

/-- What a task comes to when its left part always goes first. What has been asked for already is
not in the trace any more. -/
def finish (reply : String → Answer) {α : Type} : Task α → Traced α
  | done a => pure a
  | log r rest => do
    Traced.log r
    rest.finish reply
  | ask id next => do
    Event.trace [.started id]
    (next (reply id)).finish reply
  | waiting id next => (next (reply id)).finish reply
  | both l r join => do
    let a ← l.finish reply
    let b ← r.finish reply
    (join a b).finish reply

/-- The number of steps that are left. -/
def size (reply : String → Answer) {α : Type} : Task α → Nat
  | done _ => 0
  | log _ rest => rest.size reply + 1
  | ask id next => (next (reply id)).size reply + 2
  | waiting id next => (next (reply id)).size reply + 1
  | both l r join =>
    l.size reply + r.size reply +
      (join (l.finish reply).value (r.finish reply).value).size reply + 1

variable {reply : String → Answer}

/-- What a sequence comes to is the sequence of what its tasks come to. -/
lemma finish_bind {α : Type} (t : Task α) (f : α → Task β) :
    (t.bind f).finish reply = t.finish reply >>= fun a => (f a).finish reply := by
  induction t with
  | done a => rfl
  | log r rest ih =>
      rw [bind, finish, finish, ih, Traced.bind_assoc]
  | ask id next ih =>
      rw [bind, finish, finish, ih, Traced.bind_assoc]
  | waiting id next ih =>
      rw [bind, finish, finish, ih]
  | both l r join ihl ihr ihjoin =>
      rw [bind, finish, finish, Traced.bind_assoc]
      refine congrArg _ (funext fun a => ?_)
      rw [Traced.bind_assoc]
      exact congrArg _ (funext fun b => ihjoin a b f)

/-- Tasks side by side come to what they come to one after another. -/
lemma finish_gather (f : α → Task β) (as : List α) :
    (gather (as.map f)).finish reply = Traced.traverse (fun a => (f a).finish reply) as := by
  induction as with
  | nil => rfl
  | cons a r ih =>
      rw [List.map_cons, gather, finish, ih]
      rfl

/-- Writing a trace that has asked for nothing comes to that trace. -/
lemma finish_write {t : Traced α} (h : t.asked = []) : (write t).finish reply = t := by
  have hrecords : ∀ (rs : List Record) (a : α),
      (rs.foldr log (done a)).finish reply = ⟨a, rs, []⟩ := by
    intro rs a
    induction rs with
    | nil => rfl
    | cons r rs ih =>
        rw [List.foldr_cons, finish, ih]
        rfl
  rw [write, hrecords, ← h]

/-- No step changes what a task comes to: what is seen of it is what the trace loses. -/
lemma Step.finish_reorders {α : Type} {t u : Task α} {e : Event} (h : Step reply t e u) :
    (t.finish reply).Reorders (do Event.trace [e]; u.finish reply) := by
  induction h with
  | log | start | complete | join => exact .refl _
  | left step ih =>
      rw [finish, finish, ← Traced.bind_assoc]
      exact ih.bind fun a => .refl _
  | right step ih =>
      rw [finish, finish]
      -- the left part goes first, so that the event has to be moved before it
      refine .trans (.bind (.refl _) fun a => ?_) (Traced.Reorders.swap _ _ _)
      rw [← Traced.bind_assoc]
      exact ih.bind fun b => .refl _

lemma Step.value_eq {α : Type} {t u : Task α} {e : Event} (h : Step reply t e u) :
    (t.finish reply).value = (u.finish reply).value := h.finish_reorders.value

/-- Every step is one of those that are left. -/
lemma Step.size_eq {α : Type} {t u : Task α} {e : Event} (h : Step reply t e u) :
    t.size reply = u.size reply + 1 := by
  induction h with
  | log | start | complete => rfl
  | left step ih =>
      rw [size, size, ih, step.value_eq]
      omega
  | right step ih =>
      rw [size, size, ih, step.value_eq]
      omega
  | join =>
      rw [size, size, size, finish, finish, Traced.pure_value, Traced.pure_value]
      omega

/-- No run changes what a task comes to. -/
theorem Run.finish_reorders {t u : Task α} {events : List Event} (h : Run reply t events u) :
    (t.finish reply).Reorders (do Event.trace events; u.finish reply) := by
  induction h with
  | refl t => exact .refl _
  | @head t u v e events step run ih =>
      have hrest : (do Event.trace [e]; u.finish reply).Reorders
          (do Event.trace (e :: events); v.finish reply) := by
        rw [show e :: events = [e] ++ events from rfl, Event.trace_append, Traced.bind_assoc]
        exact .bind (.refl _) fun _ => ih
      exact step.finish_reorders.trans hrest

/-- Every run has as many steps as it takes away. -/
lemma Run.size_eq {t u : Task α} {events : List Event} (h : Run reply t events u) :
    t.size reply = u.size reply + events.length := by
  induction h with
  | refl t => rfl
  | head step run ih =>
      rw [step.size_eq, ih, List.length_cons]
      omega

/-- A task with no step left is done. -/
lemma exists_eq_done_of_stuck {α : Type} {t : Task α} (h : Stuck reply t) : ∃ a, t = .done a := by
  induction t with
  | done a => exact ⟨a, rfl⟩
  | log r rest => exact absurd .log (h _ _)
  | ask id next => exact absurd .start (h _ _)
  | waiting id next => exact absurd .complete (h _ _)
  | both l r join ihl ihr =>
      obtain ⟨a, rfl⟩ := ihl fun e u step => h e _ (.left step)
      obtain ⟨b, rfl⟩ := ihr fun e u step => h e _ (.right step)
      exact absurd .join (h _ _)

lemma stuck_done (a : α) : Stuck reply (.done a) := nofun

/-- One run after another. -/
lemma Run.trans {t u v : Task α} {before after : List Event} (h : Run reply t before u)
    (h' : Run reply u after v) : Run reply t (before ++ after) v := by
  induction h with
  | refl => exact h'
  | head step _ ih => exact .head step (ih h')

/-- Every task has a run to its end, by induction on the steps that are left. -/
lemma exists_run_done (t : Task α) :
    ∃ events, Run reply t events (.done (t.finish reply).value) := by
  induction hsize : t.size reply generalizing t with
  | zero =>
      have hstuck : Stuck reply t := by
        intro e u step
        have hstep := step.size_eq
        omega
      obtain ⟨a, rfl⟩ := exists_eq_done_of_stuck hstuck
      exact ⟨[], .refl _⟩
  | succ n ih =>
      have hstep : ¬Stuck reply t := by
        intro hstuck
        obtain ⟨a, rfl⟩ := exists_eq_done_of_stuck hstuck
        cases hsize
      simp only [Stuck, not_forall, not_not] at hstep
      obtain ⟨e, u, step⟩ := hstep
      have hleft : u.size reply = n := by
        have hsizes := step.size_eq
        omega
      obtain ⟨events, hrun⟩ := ih u hleft
      rw [step.value_eq]
      exact ⟨e :: events, .head step hrun⟩

/-- **No schedule matters**: a run with no step left has the result of the task, and has written its
records and started its fetches, in some order. Every run goes on to such an end, which it reaches
after a number of steps that is the same for all. -/
theorem Run.of_stuck {t u : Task α} {events : List Event} (h : Run reply t events u) :
    (Stuck reply u → u = .done (t.finish reply).value ∧
      (events.filterMap Event.record?).Perm (t.finish reply).records ∧
      (events.filterMap Event.started?).Perm (t.finish reply).asked) ∧
    (Stuck reply u ↔ events.length = t.size reply) ∧
    ∃ more, Run reply t (events ++ more) (.done (t.finish reply).value) := by
  have hfinish := h.finish_reorders
  have hsize := h.size_eq
  refine ⟨fun hstuck => ?_, ⟨fun hstuck => ?_, fun hlength e v step => ?_⟩, ?_⟩
  · obtain ⟨a, rfl⟩ := exists_eq_done_of_stuck hstuck
    refine ⟨congrArg _ hfinish.value.symm, ?_, ?_⟩
    · exact (hfinish.records.trans (.of_eq (List.append_nil _))).symm
    · exact (hfinish.asked.trans (.of_eq (List.append_nil _))).symm
  · obtain ⟨a, rfl⟩ := exists_eq_done_of_stuck hstuck
    rw [hsize, size, Nat.zero_add]
  · have hstep := step.size_eq
    omega
  · obtain ⟨more, hmore⟩ : ∃ more, Run reply u more (.done (u.finish reply).value) :=
      exists_run_done u
    have hvalue : (t.finish reply).value = (u.finish reply).value := hfinish.value
    rw [hvalue]
    exact ⟨more, h.trans hmore⟩

end Task

end WidgetContracts
