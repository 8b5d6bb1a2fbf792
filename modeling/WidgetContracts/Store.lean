/-
Asking the store for collections.

* `Outcome`, `Store`: what the store does for each identifier.
* `FetchFault`: why a fetch failed.
* `Answer`: what comes of asking: a collection, or one of the three ways not to get one.
* `Source`: a store with the client and the time that a fetch may take; `Source.ask`. When no time
  is given at all, nothing is asked.
-/
import WidgetContracts.Log.Record
import WidgetContracts.Remote.Client

namespace WidgetContracts

/-- What the store does when it is asked for a collection. It is late if it says so itself, or if
the time that is given passes without an answer. -/
inductive Outcome where
  | missing
  | document (v : Value)
  | fails (text : String)
  | late
  | remote (reply : Reply)

/-- What the store does for each identifier. -/
abbrev Store := String → Outcome

/-- Why a fetch failed. -/
inductive FetchFault where
  | refused (fault : CollectionFault)
  | failed (text : String)
  | remote (fault : RemoteFault)

/-- The wording of a fault in a log. -/
def FetchFault.message : FetchFault → String
  | refused fault => fault.headline
  | failed text => text
  | remote fault => fault.message

/-- What comes of asking for a collection. -/
inductive Answer where
  | found (c : Collection)
  | unknown
  | late
  | failed (fault : FetchFault)

/-- The answer to an outcome. -/
def Outcome.answer (client : Client) (id : String) : Outcome → Answer
  | missing => .unknown
  | document v =>
    match Collection.read v with
    | .ok c => .found c
    | .error fault => .failed (.refused fault)
  | fails text => .failed (.failed text)
  | late => .late
  | remote reply =>
    match (client.fetch reply id).2 with
    | .ok (some c) => .found c
    | .ok none => .unknown
    | .error fault => .failed (.remote fault)

/-- A store with the client and the seconds that a fetch may take, if they are limited. -/
structure Source where
  store : Store
  client : Client
  timeout : Option Float

namespace Source

/-- Whether no time at all is given. -/
def hasNoTime (s : Source) : Bool := s.timeout.any fun t => t ≤ 0

/-- Asks for a collection. -/
def ask (s : Source) (id : String) : Traced Answer :=
  if s.hasNoTime then ⟨.late, [], []⟩ else ⟨(s.store id).answer s.client id, [], [id]⟩

end Source

end WidgetContracts
