/-
The remote store of collections, as seen through one exchange of a request and a reply.

* `Request`, `Reply`, `Body`: what is sent and what may come back. A request may be lost on the way,
  or the exchange may break off by an exception of another kind.
* `Client`: the key, site and address under which the store is asked; `Client.headers`. A user whom
  the address names takes the place of the key.
* `RemoteFault`: all the ways in which an exchange can fail.
* `Reply.collection?`: the answer that a reply holds. Only status 404 means that the store does not
  know the collection.
* `Client.fetch`: the requests sent and the answer; a bad address or key sends no request.
-/
import WidgetContracts.Collection
import WidgetContracts.Document.Json
import WidgetContracts.Remote.Url
import WidgetContracts.Text.Base64
import WidgetContracts.Text.Basic
import WidgetContracts.Text.Encoding

namespace WidgetContracts

/-- The body of a reply, in bytes. -/
abbrev Body := List UInt8

/-- What comes back from the store: a reply with its status, or word that the request has failed on
the way; or the exchange breaks off, which the client passes on as it is. -/
inductive Reply where
  | failure (text : String)
  | broken (text : String)
  | response (status : Int) (body : Body)

/-- What is sent to the store. -/
structure Request where
  method : String
  url : String
  headers : List (String × String)
  deriving DecidableEq, Repr

/-- How the store is asked. -/
structure Client where
  apiKey : String
  siteId : Option String
  apiBase : String
  timeout : Float

/-- The ways in which an exchange with the store can fail. -/
inductive RemoteFault where
  | transport (id text : String)
  | status (id : String) (status : Int)
  | address (fault : Url.Fault)
  | header (c : Char) (place : Nat)
  | broken (text : String)
  | noScheme (url : String)
  | encoding (fault : Text.DecodingFault)
  | notJson (fault : Json.Fault) (text : List Nat)
  | noEntries (kind : String)
  | refused (fault : CollectionFault)

namespace RemoteFault

/-- The wording of a fault. -/
def message : RemoteFault → String
  | transport id text => s!"Request for collection {id} failed: {text}"
  | status id n => s!"Fetching collection {id} returned HTTP {n}"
  | address fault => fault.message
  | header c place =>
    let shown := String.ofList (Text.codeEscape c.toNat)
    s!"'ascii' codec can't encode character '{shown}' in position {place}: " ++
      "ordinal not in range(128)"
  | broken text => text
  | noScheme url => "unknown url type: " ++ String.ofList (Text.quoted url.toList)
  | encoding fault => fault.message
  | notJson fault text => fault.message text
  | noEntries kind => s!"'{kind}' object has no attribute 'get'"
  | refused fault => fault.headline

end RemoteFault

namespace Client

/-- The headers of a request; the site is named only if it is given. -/
def headers (c : Client) : List (String × String) :=
  [("Authorization", c.apiKey), ("Accept", "application/json")] ++
    ((given c.siteId).map fun s => ("wix-site-id", s)).toList

/-- The address of a collection. -/
def address (c : Client) (id : String) : String :=
  c.apiBase ++ "/wix-data/v2/collections/" ++ id

/-- The first character beyond ASCII in the headers, with its place in its header. -/
def foreignCharacter? (headers : List (String × String)) : Option (Char × Nat) :=
  headers.findSome? fun (_, v) =>
    (v.toList.find? fun c => 0x80 ≤ c.toNat).map fun c =>
      (c, (v.toList.takeWhile fun d => d.toNat < 0x80).length)

/-- Where a collection is asked for. -/
def target (c : Client) (id : String) : Except RemoteFault Url := do
  let url ← (Url.read (c.address id).toList).mapError .address
  url.rooted.mapError .address

/-- The authority of a user with a password. -/
def basic (name password : List Char) : String :=
  "Basic " ++ String.ofList (Text.Base64.encode (Text.Utf8.encode (name ++ ':' :: password)))

/-- The headers under which an address is asked. -/
def headersFor (c : Client) (url : Url) : List (String × String) :=
  match url.user? with
  | some (name, password) =>
    c.headers.map fun (k, v) => (k, if k = "Authorization" then basic name password else v)
  | none => c.headers

/-- The request to an address. The host is told in a header, too. -/
def request (c : Client) (url : Url) : Except RemoteFault Request :=
  match foreignCharacter? (c.headers ++ [("Host", String.ofList url.place)]) with
  | some (ch, place) => .error (.header ch place)
  | none => .ok ⟨"GET", url.text, c.headersFor url⟩

end Client

/-- The document in a body. -/
def Body.document? (body : Body) : Except RemoteFault Value := do
  let us ← (Text.Encoding.decode body).mapError .encoding
  (Json.parse us).mapError (.notJson · us)

/-- The collection that a document holds, bare or in an envelope. -/
def collectionIn : Value → Except RemoteFault Collection
  | .map entries =>
    (Collection.read ((find? "collection" entries).getD (.map entries))).mapError .refused
  | v => .error (.noEntries v.kind)

/-- The answer of a store that was reached: a collection, or that it does not know it. -/
def collectionOf (id : String) (status : Int) (body : Body) :
    Except RemoteFault (Option Collection) :=
  if status = 404 then .ok none
  else if 200 ≤ status ∧ status < 300 then do return some (← collectionIn (← body.document?))
  else .error (.status id status)

/-- The answer that a reply to a request at an address holds. -/
def Reply.collection? (url : Url) (id : String) : Reply → Except RemoteFault (Option Collection)
  | failure text => .error (.transport id text)
  | broken text => .error (.broken text)
  | response status body =>
    if !url.isAbsolute then .error (.noScheme url.text)
    else collectionOf id status body

/-- Asks for a collection where the store gives a known reply: the requests sent, and the answer. -/
def Client.fetch (c : Client) (reply : Reply) (id : String) :
    List Request × Except RemoteFault (Option Collection) :=
  match c.target id with
  | .error fault => ([], .error fault)
  | .ok url =>
    match c.request url with
    | .error fault => ([], .error fault)
    | .ok request => ([request], reply.collection? url id)

end WidgetContracts
