/-
Log records, and results that leave a trace: the records written and the collections asked for on
the way.

* `Level`, `Record`: what is logged, and about which collection and widget.
* `Record.line`: the line of a record without time and logger.
* `Traced`: a result with its trace; in a sequence of steps the traces follow one another.
* `Traced.traverse`: a step for each member of a list.
-/
namespace WidgetContracts

/-- How grave a record is. -/
inductive Level where
  | info
  | warning
  | error
  deriving DecidableEq, Repr

/-- The number of a level. -/
def Level.number : Level → Int
  | info => 20
  | warning => 30
  | error => 40

/-- The name of a level by its number. -/
def levelName (n : Int) : String :=
  if n = 0 then "NOTSET"
  else if n = 10 then "DEBUG"
  else if n = 20 then "INFO"
  else if n = 30 then "WARNING"
  else if n = 40 then "ERROR"
  else if n = 50 then "CRITICAL"
  else s!"Level {n}"

/-- A log record, with the collection and the widget that it is about. -/
structure Record where
  level : Level
  collection : Option String
  widget : Option String
  message : String
  deriving DecidableEq, Repr

namespace Record

/-- What a line says about the context of a record; a hyphen stands for what is not known. -/
def context (collection widget : String) : String := s!"[collection={collection} widget={widget}]"

/-- The line of a record, without time and logger. -/
def line (r : Record) : String :=
  let about := context (r.collection.getD "-") (r.widget.getD "-")
  s!"{levelName r.level.number} {about} - {r.message}"

/-- A warning about a collection. -/
def warning (collection message : String) : Record := ⟨.warning, some collection, none, message⟩

end Record

/-- A result with its trace: the records written and the collections asked for. -/
structure Traced (α : Type) where
  value : α
  records : List Record
  asked : List String

namespace Traced

variable {α β : Type}

/-- A result without a trace. -/
protected def pure (a : α) : Traced α := ⟨a, [], []⟩

/-- One result after another. -/
protected def bind (t : Traced α) (f : α → Traced β) : Traced β :=
  let u := f t.value
  ⟨u.value, t.records ++ u.records, t.asked ++ u.asked⟩

instance : Monad Traced where
  pure := Traced.pure
  bind := Traced.bind

/-- Writes a record. -/
def log (r : Record) : Traced Unit := ⟨(), [r], []⟩

/-- Writes a record and gives a result. -/
def logging (r : Record) (a : α) : Traced α := ⟨a, [r], []⟩

@[simp] theorem pure_value (a : α) : (pure a : Traced α).value = a := rfl

@[simp] theorem pure_records (a : α) : (pure a : Traced α).records = [] := rfl

@[simp] theorem pure_asked (a : α) : (pure a : Traced α).asked = [] := rfl

@[simp] theorem bind_value (t : Traced α) (f : α → Traced β) :
    (t >>= f).value = (f t.value).value := rfl

@[simp] theorem bind_records (t : Traced α) (f : α → Traced β) :
    (t >>= f).records = t.records ++ (f t.value).records := rfl

@[simp] theorem bind_asked (t : Traced α) (f : α → Traced β) :
    (t >>= f).asked = t.asked ++ (f t.value).asked := rfl

/-- A step for each member of a list, in order. -/
def traverse (f : α → Traced β) : List α → Traced (List β)
  | [] => pure []
  | a :: r => do
    let b ← f a
    let bs ← traverse f r
    return b :: bs

theorem traverse_value (f : α → Traced β) (as : List α) :
    (traverse f as).value = as.map fun a => (f a).value := by
  induction as with
  | nil => rfl
  | cons a r ih => simp [traverse, ih]

theorem traverse_records (f : α → Traced β) (as : List α) :
    (traverse f as).records = as.flatMap fun a => (f a).records := by
  induction as with
  | nil => rfl
  | cons a r ih => simp [traverse, ih]

theorem traverse_asked (f : α → Traced β) (as : List α) :
    (traverse f as).asked = as.flatMap fun a => (f a).asked := by
  induction as with
  | nil => rfl
  | cons a r ih => simp [traverse, ih]

end Traced

end WidgetContracts
