/-
Reading the entries of a configuration one by one: an entry that cannot be read is reported, logged
and left out, and the others stay.

* `entryLabel`: what a document is called: its own identifier, if given, else its place.
* `labelFault?`: why what a document is called cannot be spelled.
* `EntryTrouble`: why a document is no entry.
* `salvage`: the entries that can be read, and the errors of the others.
* `salvageLabelled`: the same, if all that the documents are called can be spelled.
-/
import WidgetContracts.Document.Spelling
import WidgetContracts.Entry.Reading
import WidgetContracts.Log.Record

namespace WidgetContracts

/-- The name of the place of an entry. -/
def placeLabel (i : Nat) : String := s!"collections[{i}]"

/-- The identifier in a document, unless it is null or empty. -/
def givenId? (t : Shared) (v : Value) : Option Value :=
  match (v.actual t).get? "collectionId" with
  | none | some (.scalar .null) | some (.scalar (.text "")) => none
  | some id => some id

/-- What a document at index `i` is called. -/
def entryLabel (t : Shared) (i : Nat) (v : Value) : String :=
  match givenId? t v with
  | some id => id.label t
  | none => placeLabel i

/-- Why what a document is called cannot be spelled, if it cannot. -/
def labelFault? (t : Shared) (v : Value) : Option SpellingFault :=
  (givenId? t v).bind (·.spellingFault? t)

/-- Why a document is no entry. -/
inductive EntryTrouble where
  | notMapping
  | problems (ps : List Reading.Problem)
  deriving DecidableEq, Repr

/-- The wording of a trouble. -/
def EntryTrouble.text : EntryTrouble → String
  | notMapping => "entry must be a mapping"
  | problems ps => Reading.problemsText ps

/-- The entry in a document. -/
def Entry.ofValue (t : Shared) (v : Value) : Except EntryTrouble Entry :=
  match v.actual t with
  | .map _ => (Entry.read t v).mapError .problems
  | _ => .error .notMapping

/-- The warning that a document is left out. -/
def droppedRecord (label : String) (trouble : EntryTrouble) : Record :=
  .warning label ("Dropping collection entry that failed to parse: " ++ trouble.text)

/-- What reading a list of documents leaves: entries, and errors. -/
structure Salvaged where
  entries : List Entry
  errors : List String

/-- Reads documents one by one, the first of which stands at index `i`. -/
def salvageFrom (t : Shared) (i : Nat) : List Value → Traced Salvaged
  | [] => pure ⟨[], []⟩
  | v :: r =>
    match Entry.ofValue t v with
    | .ok e => do
      let s ← salvageFrom t (i + 1) r
      return { s with entries := e :: s.entries }
    | .error trouble => do
      let label := entryLabel t i v
      Traced.log (droppedRecord label trouble)
      let s ← salvageFrom t (i + 1) r
      return { s with errors := s!"{label}: {trouble.text}" :: s.errors }

/-- Reads documents one by one. -/
def salvage (t : Shared) (vs : List Value) : Traced Salvaged := salvageFrom t 0 vs

/-- Reads documents one by one, unless what one of them is called cannot be spelled. -/
def salvageLabelled (t : Shared) (vs : List Value) : Except SpellingFault (Traced Salvaged) :=
  match vs.findSome? (labelFault? t) with
  | some fault => .error fault
  | none => .ok (salvage t vs)

end WidgetContracts
