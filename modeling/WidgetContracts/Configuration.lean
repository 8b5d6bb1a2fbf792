/-
The configuration file.

* `ConfigFault`: why a file is no configuration; `ConfigFault.isReported` tells the faults that are
  reported as such from those that end the reading as they are, and `ConfigFault.report?` has their
  wording.
* `entriesIn`: the documents of the entries in the document of a file.
* `Configuration.load`: the entries of a file, if there is one. Entries that cannot be read are
  logged and left out. `Configuration.load_value` has what is given without what is logged.
-/
import WidgetContracts.Entry.Salvage
import WidgetContracts.Markup.Document

namespace WidgetContracts

/-- Why a file is no configuration. -/
inductive ConfigFault where
  | markup (fault : Markup.Fault)
  | notMapping
  | notList
  | label (fault : SpellingFault)
  deriving DecidableEq, Repr

/-- Whether a fault is reported as one of the configuration. Of those of its notation only that it
breaks the rules is; the others end the reading as they are. -/
def ConfigFault.isReported : ConfigFault → Bool
  | markup .malformed | notMapping | notList => true
  | markup _ | label _ => false

/-- The report of a fault of the file at a path, if it is reported. The reader of the notation gives
its own reason for what breaks the rules. -/
def ConfigFault.report? (path reason : String) : ConfigFault → Option String
  | markup .malformed => some s!"Invalid YAML in {path}: {reason}"
  | notMapping => some s!"Config file {path} must contain a mapping at the top level"
  | notList => some s!"'collections' in {path} must be a list"
  | markup _ | label _ => none

/-- The faults that are reported are those that have a report. -/
theorem ConfigFault.isSome_report? (path reason : String) (fault : ConfigFault) :
    (fault.report? path reason).isSome = fault.isReported := by
  cases fault with
  | markup fault => cases fault <;> rfl
  | notMapping | notList | label => rfl

namespace Configuration

/-- The documents of the entries in the document of a file. An empty document has none, and neither
has one whose list of entries is not given. -/
def entriesIn (d : Document) : Except ConfigFault (List Value) :=
  match d.root.actual d.shared with
  | .scalar .null => .ok []
  | .map members =>
    match ((find? "collections" members).map (Value.actual d.shared)).filter Value.isTruthy with
    | none => .ok []
    | some (.list vs) => .ok vs
    | some _ => .error .notList
  | _ => .error .notMapping

/-- What reading the entries in the document of a file leaves. -/
def salvageIn (d : Document) : Except ConfigFault (Traced Salvaged) := do
  let vs ← entriesIn d
  (salvageLabelled d.shared vs).mapError .label

/-- The warning that there is no file. -/
def absent (path : String) : Record :=
  ⟨.warning, none, none, s!"Config file not found at {path}, using empty configuration"⟩

/-- The entries of the configuration file at a path, whose bytes are given if there is one. -/
def load (path : String) (file : Option (List UInt8)) : Traced (Except ConfigFault (List Entry)) :=
  match file with
  | none => Traced.logging (absent path) (.ok [])
  | some bytes =>
    match (Markup.document (.ofBytes bytes)).mapError .markup >>= salvageIn with
    | .error fault => pure (.error fault)
    | .ok t => do return .ok (← t).entries

/-- The entries that a file gives, or the fault for which it gives none, without what is logged. -/
theorem load_value (path : String) (bytes : List UInt8) :
    (load path (some bytes)).value =
      ((Markup.document (.ofBytes bytes)).mapError .markup >>= salvageIn).map
        (·.value.entries) := by
  delta load
  dsimp only
  cases (Markup.document (.ofBytes bytes)).mapError .markup >>= salvageIn with
  | error fault => rfl
  | ok t => rfl

/-- A file with a document gives the entries that are salvaged from it. -/
theorem load_value_of_document (path : String) {bytes : List UInt8} {d : Document}
    (h : Markup.document (.ofBytes bytes) = .ok d) :
    (load path (some bytes)).value = (salvageIn d).map (·.value.entries) := by
  rw [load_value, h]
  rfl

end Configuration

end WidgetContracts
