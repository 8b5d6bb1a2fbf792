/-
Checking the entries of the configuration.

* `EntryFault`: what is wrong with an entry, by itself or beside the others.
* `Entry.faults`: the faults of an entry by itself.
* `repeated`: the texts that occur more than once, in order of first appearance.
* `duplicateFaults`: identifiers and then paths that several entries share.
* `configurationErrors`: all that is wrong with a configuration.
* `acceptedEntries`: the entries that may be processed; each of the others is logged. Here an empty
  identifier or path counts as shared, too.
-/
import WidgetContracts.Entry.Basic
import WidgetContracts.Log.Record
import WidgetContracts.Text.Basic

namespace WidgetContracts

/-- What is wrong with an entry. -/
inductive EntryFault where
  | noId
  | noPath
  | relativePath
  | noSlug
  | noComponents
  | noReferenceField
  | noCategorySlug
  | sharedId (id : String)
  | sharedPath (path : String)
  deriving DecidableEq, Repr

/-- The wording of a fault. -/
def EntryFault.text : EntryFault → String
  | noId => "collectionId is required"
  | noPath => "pathPrefix is required"
  | relativePath => "pathPrefix must start with /"
  | noSlug => "slugField is required"
  | noComponents => "components configuration is required"
  | noReferenceField => "category.referenceField is required when category is configured"
  | noCategorySlug => "category.categorySlugField is required when category is configured"
  | sharedId id => s!"Duplicate collectionId: {id}"
  | sharedPath path => s!"Duplicate pathPrefix: {path}"

/-- One fault if a condition holds. -/
def faultIf (b : Bool) (fault : EntryFault) : List EntryFault := if b then [fault] else []

/-- The faults of a path. -/
def pathFaults (path : String) : List EntryFault :=
  if path = "" then [.noPath]
  else faultIf (path.toList.head? != some '/') .relativePath

/-- The faults of the fields that place an item in a category. -/
def CategoryKeys.faults (c : CategoryKeys) : List EntryFault :=
  faultIf (c.referenceField == "") .noReferenceField ++
    faultIf (c.categorySlugField == "") .noCategorySlug

/-- The faults of an entry by itself. -/
def Entry.faults (e : Entry) : List EntryFault :=
  faultIf (e.collectionId == "") .noId ++ pathFaults e.pathPrefix ++
    faultIf (e.slugField == "") .noSlug ++ faultIf e.components.isNone .noComponents ++
    ((e.category.map CategoryKeys.faults).getD [])

/-- The texts that occur more than once, each once, in order of first appearance. -/
def repeated (texts : List String) : List String :=
  (texts.filter fun t => 1 < texts.count t).eraseDups

/-- Identifiers, and then paths, that several entries share. -/
def duplicateFaults (es : List Entry) : List EntryFault :=
  (repeated ((es.map (·.collectionId)).filter (· != ""))).map .sharedId ++
    (repeated ((es.map (·.pathPrefix)).filter (· != ""))).map .sharedPath

/-- The faults of an entry by itself, named by the entry. -/
def Entry.report (e : Entry) : List String :=
  let label := orElse e.collectionId "<unnamed>"
  e.faults.map fun f => s!"{label}: {f.text}"

/-- All that is wrong with a configuration. -/
def configurationErrors (es : List Entry) : List String :=
  if es.isEmpty then ["At least one collection must be configured"]
  else es.flatMap Entry.report ++ (duplicateFaults es).map EntryFault.text

/-- The faults that keep an entry among others from being processed. -/
def Entry.faultsAmong (e : Entry) (es : List Entry) : List EntryFault :=
  e.faults ++
    faultIf (1 < (es.map (·.collectionId)).count e.collectionId) (.sharedId e.collectionId) ++
    faultIf (1 < (es.map (·.pathPrefix)).count e.pathPrefix) (.sharedPath e.pathPrefix)

/-- The warning that an entry is left out. -/
def Entry.skipped (e : Entry) (faults : List EntryFault) : Record :=
  .warning (orElse e.collectionId "-") <|
    "Skipping collection with configuration errors: " ++
      "; ".intercalate (faults.map EntryFault.text)

/-- Those of `rest` that may be processed among the entries `es`. -/
def acceptedAmong (es : List Entry) : List Entry → Traced (List Entry)
  | [] => pure []
  | e :: r => do
    let faults := e.faultsAmong es
    if faults.isEmpty then
      let accepted ← acceptedAmong es r
      return e :: accepted
    else
      Traced.log (e.skipped faults)
      acceptedAmong es r

/-- The entries that may be processed. -/
def acceptedEntries (es : List Entry) : Traced (List Entry) := acceptedAmong es es

end WidgetContracts
