/-
Generating the contracts of a whole configuration.

* `Entry.wants`, `Entry.wanted`: the widgets that an entry asks for; an entry without components has
  no answer.
* `shapeOf`: the shape of the collection of an entry, if it can be had; what went wrong is logged
  and the other collections stay.
* `shapesOf`, `generate`, `generateAll`: for all entries that may be processed.
-/
import WidgetContracts.Contract
import WidgetContracts.Entry.Check
import WidgetContracts.Resolve

namespace WidgetContracts

/-- An entry was asked for its widgets and has no components. -/
inductive NoComponents where
  | noComponents
  deriving DecidableEq, Repr

/-- Whether components ask for a widget. The page of a category shows a list, too. -/
def Components.want (c : Components) : Widget → Bool
  | .item => c.itemPage
  | .list => c.indexPage || c.categoryPage
  | .table => c.tableWidget
  | .card => c.cardWidget

/-- The widgets that components ask for. -/
def Components.wanted (c : Components) : List Widget := Widget.all.filter c.want

namespace Entry

/-- The components of an entry. -/
def requireComponents (e : Entry) : Except NoComponents Components :=
  match e.components with
  | some c => .ok c
  | none => .error .noComponents

/-- Whether an entry asks for a widget. -/
def wants (w : Widget) (e : Entry) : Except NoComponents Bool :=
  return (← e.requireComponents).want w

/-- The widgets that an entry asks for. -/
def wanted (e : Entry) : Except NoComponents (List Widget) := return (← e.requireComponents).wanted

/-- Whether an entry asks for any widget. -/
def wantsAny (e : Entry) : Except NoComponents Bool := return !(← e.wanted).isEmpty

end Entry

/-- The members of a list for which a condition holds, if it has an answer for all. -/
def selectBy (p : Entry → Except NoComponents Bool) : List Entry → Except NoComponents (List Entry)
  | [] => .ok []
  | e :: r => do
    let keep ← p e
    let kept ← selectBy p r
    return if keep then e :: kept else kept

/-- The record that a collection could not be processed. -/
def failedRecord (e : Entry) (fault : FetchFault) : Record :=
  ⟨.error, some e.collectionId, none, "Failed to process collection: " ++ fault.message⟩

/-- The shape of the collection of an entry, if it can be had. -/
def shapeOf (source : Source) (e : Entry) : Traced (Option CollectionShape) := do
  match ← source.ask e.collectionId with
  | .found c => return some (← resolve (some source) [] c e)
  | .unknown =>
    Traced.logging (.warning e.collectionId "Collection not found, skipping") none
  | .late => Traced.logging (.warning e.collectionId "Timed out fetching collection schema") none
  | .failed fault => Traced.logging (failedRecord e fault) none

/-- The shapes of the collections of entries, as far as they can be had. -/
def shapesOf (source : Source) (es : List Entry) : Traced (List CollectionShape) := do
  return (← Traced.traverse (shapeOf source) es).filterMap id

/-- The record that a contract was generated. -/
def generatedRecord (s : CollectionShape) (w : Widget) : Record :=
  let kind := String.ofList (Decimal.lowerAscii w.word.toList)
  ⟨.info, some s.collectionId, some w.word,
    s!"Generated {kind} contract: {(s.contract w).name}"⟩

/-- Builds the contract of a widget. -/
def build (w : Widget) (s : CollectionShape) : Traced Contract :=
  Traced.logging (generatedRecord s w) (s.contract w)

/-- The shapes for all entries that may be processed. -/
def generateShapes (source : Source) (es : List Entry) : Traced (List CollectionShape) := do
  shapesOf source (← acceptedEntries es)

/-- The contracts of one widget for all entries that may be processed and ask for it. -/
def generate (source : Source) (w : Widget) (es : List Entry) :
    Traced (Except NoComponents (List Contract)) := do
  match selectBy (Entry.wants w) (← acceptedEntries es) with
  | .error fault => return .error fault
  | .ok selected =>
    let shapes ← shapesOf source selected
    return .ok (← Traced.traverse (build w) shapes)

/-- The contracts that the entry of a shape asks for, each with its widget. -/
def buildWanted (s : CollectionShape) :
    Traced (Except NoComponents (List (Widget × Contract))) := do
  match s.entry.wanted with
  | .error fault => return .error fault
  | .ok ws => return .ok (← Traced.traverse (fun w => do return (w, ← build w s)) ws)

/-- The contracts of one widget among others. -/
def ofWidget (w : Widget) (cs : List (Widget × Contract)) : List Contract :=
  (cs.filter (·.1 == w)).map (·.2)

/-- The contracts of each widget. -/
abbrev Batch := Widget → List Contract

/-- All contracts for all entries that may be processed; each collection is asked for once. -/
def generateAll (source : Source) (es : List Entry) : Traced (Except NoComponents Batch) := do
  match selectBy Entry.wantsAny (← acceptedEntries es) with
  | .error fault => return .error fault
  | .ok selected =>
    let shapes ← shapesOf source selected
    let built ← Traced.traverse buildWanted shapes
    match built.mapM id with
    | .error fault => return .error fault
    | .ok contracts => return .ok fun w => ofWidget w contracts.flatten

end WidgetContracts
