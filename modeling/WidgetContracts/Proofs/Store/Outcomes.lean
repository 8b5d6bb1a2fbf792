/-
Which outcomes give a collection.

* `Value.Holds`: a document holds a collection, bare or in an envelope.
* `Outcome.Gives`: the store hands out a document that reads as the collection, or replies with
  success and a document that holds it.
* `Outcome.answer_eq_found_iff`: an answer is found exactly when the outcome gives it, so that all
  other outcomes are alike in giving nothing.
-/
import WidgetContracts.Proofs.Reading.Outcomes
import WidgetContracts.Store

namespace WidgetContracts

/-- A document holds a collection: it reads as the collection, bare or after its envelope was taken
off. -/
inductive Value.Holds : Value → Collection → Prop
  | bare {entries : List (Scalar × Value)} {c : Collection}
      (noEnvelope : find? "collection" entries = none)
      (reads : Collection.read (.map entries) = .ok c) : Holds (.map entries) c
  | envelope {entries : List (Scalar × Value)} {v : Value} {c : Collection}
      (inside : find? "collection" entries = some v) (reads : Collection.read v = .ok c) :
      Holds (.map entries) c

/-- An outcome gives a collection: the store hands out a document that reads as the collection, or a
request can be made, and the reply to it tells of success and has a body that holds the
collection. -/
inductive Outcome.Gives (client : Client) (id : String) : Outcome → Collection → Prop
  | document {v : Value} {c : Collection} (reads : Collection.read v = .ok c) :
      Gives client id (.document v) c
  | remote {status : Int} {body : Body} {url : Url} {request : Request} {v : Value}
      {c : Collection} (target : client.target id = .ok url)
      (requested : client.request url = .ok request) (absolute : url.isAbsolute = true)
      (success : 200 ≤ status ∧ status < 300)
      (decodes : body.document? = .ok v) (holds : v.Holds c) :
      Gives client id (.remote (.response status body)) c

/-! ### Replies -/

/-- The document in a body is that of the text that its bytes are. -/
lemma Body.document?_of_text {body : Body} {text : List Nat} {v : Value}
    (hdecodes : Text.Encoding.decode body = .ok text) (hparses : Json.parse text = .ok v) :
    body.document? = .ok v := by
  rw [Body.document?, hdecodes, bind_eq_ok_iff]
  exact ⟨text, rfl, mapError_eq_ok_iff.mpr hparses⟩

lemma collectionIn_eq_ok_iff {v : Value} {c : Collection} :
    collectionIn v = .ok c ↔ v.Holds c := by
  constructor
  · intro h
    cases v with
    | map entries =>
        rw [collectionIn, mapError_eq_ok_iff] at h
        cases hin : find? "collection" entries with
        | none =>
            rw [hin] at h
            exact .bare hin h
        | some v =>
            rw [hin] at h
            exact .envelope hin h
    | scalar | list | set | pair | shared => cases h
  · intro h
    cases h with
    | bare noEnvelope reads =>
        rw [collectionIn, noEnvelope, mapError_eq_ok_iff]
        exact reads
    | envelope inside reads =>
        rw [collectionIn, inside, mapError_eq_ok_iff]
        exact reads

/-- A reply from a store that was reached has a collection exactly when it tells of success and its
body holds one. -/
lemma collectionOf_eq_ok_some_iff {id : String} {status : Int} {body : Body} {c : Collection} :
    collectionOf id status body = .ok (some c) ↔
      (200 ≤ status ∧ status < 300) ∧ ∃ v, body.document? = .ok v ∧ v.Holds c := by
  rw [collectionOf]
  by_cases hunknown : status = 404
  · simp [hunknown]
  rw [if_neg hunknown]
  by_cases hsuccess : 200 ≤ status ∧ status < 300
  · rw [if_pos hsuccess, bind_eq_ok_iff]
    simp only [bind_eq_ok_iff, collectionIn_eq_ok_iff, hsuccess, true_and]
    constructor
    · rintro ⟨v, hv, c', hc, hsome⟩
      obtain rfl := Option.some.inj (Except.ok.inj hsome)
      exact ⟨v, hv, hc⟩
    · rintro ⟨v, hv, hc⟩
      exact ⟨v, hv, c, hc, rfl⟩
  · simp [hsuccess]

lemma Reply.collection?_response_iff {status : Int} {body : Body} {url : Url} {id : String}
    {c : Collection} :
    (response status body).collection? url id = .ok (some c) ↔
      url.isAbsolute = true ∧ (200 ≤ status ∧ status < 300) ∧
        ∃ v, body.document? = .ok v ∧ v.Holds c := by
  rw [Reply.collection?]
  cases url.isAbsolute with
  | false => simp
  | true => simp [collectionOf_eq_ok_some_iff]

/-- A collection is fetched when a request can be made and the reply to it has the collection. -/
lemma Client.fetch_eq_ok_some_iff {client : Client} {reply : Reply} {id : String}
    {c : Collection} :
    (client.fetch reply id).2 = .ok (some c) ↔ ∃ url request, client.target id = .ok url ∧
      client.request url = .ok request ∧ reply.collection? url id = .ok (some c) := by
  rw [Client.fetch]
  cases htarget : client.target id with
  | error fault => simp
  | ok url =>
      cases hrequest : client.request url with
      | error fault => simp [hrequest]
      | ok request => simp [hrequest]

/-! ### Outcomes -/

/-- Among all answers, those that are found come from the outcomes that give a collection. -/
theorem Outcome.answer_eq_found_iff {client : Client} {id : String} {o : Outcome}
    {c : Collection} : o.answer client id = .found c ↔ o.Gives client id c := by
  constructor
  · intro h
    cases o with
    | missing | fails | late => cases h
    | document v =>
        rw [Outcome.answer] at h
        cases hread : Collection.read v with
        | error fault =>
            rw [hread] at h
            cases h
        | ok d =>
            rw [hread] at h
            obtain rfl := Answer.found.inj h
            exact .document hread
    | remote reply =>
        rw [Outcome.answer] at h
        have hfetch : (client.fetch reply id).2 = .ok (some c) := by
          split at h
          · next d hd =>
              obtain rfl := Answer.found.inj h
              exact hd
          · cases h
          · cases h
        obtain ⟨url, request, htarget, hrequest, hreply⟩ := Client.fetch_eq_ok_some_iff.mp hfetch
        cases reply with
        | failure | broken => cases hreply
        | response status body =>
            obtain ⟨habsolute, hsuccess, v, hv, hc⟩ := Reply.collection?_response_iff.mp hreply
            exact .remote htarget hrequest habsolute hsuccess hv hc
  · intro h
    cases h with
    | document reads => rw [Outcome.answer, reads]
    | remote target requested absolute success decodes holds =>
        have hfetch := Client.fetch_eq_ok_some_iff.mpr ⟨_, _, target, requested,
          Reply.collection?_response_iff.mpr ⟨absolute, success, _, decodes, holds⟩⟩
        rw [Outcome.answer, hfetch]

/-- What is missing gives nothing. -/
lemma Outcome.not_gives_missing {client : Client} {id : String} {c : Collection} :
    ¬Outcome.missing.Gives client id c := by
  intro hgives
  cases hgives

/-- A reply that tells of no success gives nothing. -/
lemma Outcome.not_gives_of_status {client : Client} {id : String} {status : Int} {body : Body}
    {c : Collection} (h : 300 ≤ status) :
    ¬(Outcome.remote (.response status body)).Gives client id c := by
  intro hgives
  cases hgives with
  | remote target requested absolute success decodes holds =>
      obtain ⟨-, hlt⟩ := success
      omega

end WidgetContracts
