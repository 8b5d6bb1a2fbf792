/-
Lines of the log with time and logger.

* `secondOf`: the second in which a time lies, counted in universal time from the start of 1970.
* `TimeFault`: why a time has no day and hour.
* `stampText`: day and time; records are stamped to the second.
* `fullLine`: time, level, logger, context and message.
-/
import WidgetContracts.Document.Spelling
import WidgetContracts.Log.Record

namespace WidgetContracts

/-- Why a time has no day and hour: it is no number, its count of seconds does not fit into 64 bits,
or its year does not fit into 32 bits. -/
inductive TimeFault where
  | notNumber
  | farSecond
  | farYear
  deriving DecidableEq, Repr

/-- The second in which a time lies, which is given as a number of seconds. -/
def secondOf (time : Scalar) : Except TimeFault Int :=
  match time.number? with
  | some (m, q) =>
    let second := if 0 ≤ q then m * Int.pow 2 q.toNat else m.fdiv (Int.pow 2 (-q).toNat)
    if -Int.pow 2 63 ≤ second ∧ second < Int.pow 2 63 then .ok second else .error .farSecond
  | none =>
    match time with
    | .float x => .error (if x.isNaN then .notNumber else .farSecond)
    | _ => .error .notNumber

/-- The days from the first of March of year 0 to the start of 1970. -/
def epochDay : Int := 719468

/-- A second as day and time. The year is written with as many digits as it has. -/
def stampText (second : Int) : Except TimeFault String :=
  let (year, month, day) := Day.ofDayNumber (second.fdiv 86400 + epochDay)
  let rest := (second.fmod 86400).toNat
  if -Int.pow 2 31 ≤ year - 1900 ∧ year - 1900 < Int.pow 2 31 then
    .ok <| s!"{year}-{Day.digits 2 month}-{Day.digits 2 day} " ++
      s!"{Day.digits 2 (rest / 3600)}:{Day.digits 2 (rest / 60 % 60)}:" ++
      s!"{Day.digits 2 (rest % 60)},000"
  else .error .farYear

/-- What a line says about a part of the context: its label, or a hyphen. -/
def contextText (v : Option Value) : String :=
  match v with
  | some v => v.label #[]
  | none => "-"

/-- The full line of a record. -/
def fullLine (time : Scalar) (level : Int) (logger message : String)
    (collection widget : Option Value) : Except TimeFault String := do
  let about := Record.context (contextText collection) (contextText widget)
  let stamp ← stampText (← secondOf time)
  return s!"{stamp} {levelName level} {logger} {about} - {message}"

/-- The level at which logging is set up when none is asked for. -/
def defaultLevel : Int := Level.info.number

end WidgetContracts
