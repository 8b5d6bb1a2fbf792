/-
What each reply of the store is taken for.

* `Client.HasAddress`: a collection is asked for at a well-formed address.
* `Client.Receives`: a request is sent, and a status and a body come back.
* `Client.Fails`: the failures of the store, with the faults that tell of them.
* `Client.Ends`: how asking for a collection ends; `Client.fetch_ends`.
* `replies_are_told_apart`: a collection is unknown, or the store has failed, or a collection is
  found, each exactly for the replies that say so; an envelope changes nothing.
-/
import WidgetContracts.Proofs.Markup.Outcomes
import WidgetContracts.Proofs.Store.Outcomes

namespace WidgetContracts

open Markup (EndsIn)

/-- Whether a fault tells of a failure of the store. -/
def RemoteFault.isStoreFailure : RemoteFault → Bool
  | transport _ _ | status _ _ => true
  | address _ | header _ _ | broken _ | noScheme _ | encoding _ | notJson _ _ | noEntries _
  | refused _ => false

/-- A status tells of success. -/
def IsSuccess (status : Int) : Prop := 200 ≤ status ∧ status < 300

namespace Client

/-- A collection is asked for at a well-formed address, which tells by itself where to ask. -/
def HasAddress (c : Client) (id : String) : Prop :=
  ∃ url, c.target id = .ok url ∧ url.isAbsolute = true

/-- A request for a collection is sent, and the reply is what comes of it. -/
def Sends (c : Client) (id : String) (reply : Reply) : Prop := (c.fetch reply id).1 ≠ []

/-- A request for a collection is sent, and a status comes back with a body. -/
structure Receives (c : Client) (id : String) (reply : Reply) (status : Int) (body : Body) :
    Prop where
  sent : c.Sends id reply
  came : reply = .response status body

/-- The store fails: a request is lost on the way, or the status that comes back tells neither of
success nor that the collection is unknown. -/
inductive Fails (c : Client) (id : String) (reply : Reply) : RemoteFault → Prop where
  | lost {text : String} (sent : c.Sends id reply) (failed : reply = .failure text) :
      Fails c id reply (.transport id text)
  | status {n : Int} {body : Body} (received : c.Receives id reply n body) (known : n ≠ 404)
      (noSuccess : ¬IsSuccess n) : Fails c id reply (.status id n)

/-- How asking for a collection ends. -/
inductive Ends (c : Client) (id : String) (reply : Reply) :
    Except RemoteFault (Option Collection) → Prop where
  | unsent {fault : RemoteFault} (unsent : ¬c.Sends id reply)
      (other : fault.isStoreFailure = false) : Ends c id reply (.error fault)
  | lost {text : String} (sent : c.Sends id reply) (failed : reply = .failure text) :
      Ends c id reply (.error (.transport id text))
  | broken {text : String} (came : reply = .broken text) :
      Ends c id reply (.error (.broken text))
  | received {status : Int} {body : Body} (received : c.Receives id reply status body) :
      Ends c id reply (collectionOf id status body)

/-! ### How asking ends -/

section

variable {c : Client} {id : String} {reply : Reply}

lemma Receives.unique {n m : Int} {body body' : Body} (h : c.Receives id reply n body)
    (h' : c.Receives id reply m body') : n = m ∧ body = body' :=
  Reply.response.inj (h.came.symm.trans h'.came)

/-- What prevents a request is no failure of the store. -/
lemma isStoreFailure_of_request {url : Url} {fault : RemoteFault}
    (h : c.request url = .error fault) : fault.isStoreFailure = false := by
  rw [request] at h
  split at h
  · obtain rfl := Except.error.inj h
    rfl
  · cases h

/-- Asking for a collection at its address ends before the request, on the way, or with a reply. -/
lemma fetch_ends (h : c.HasAddress id) (reply : Reply) :
    c.Ends id reply (c.fetch reply id).2 := by
  obtain ⟨url, htarget, habsolute⟩ := h
  cases hrequest : c.request url with
  | error fault =>
      have hfetch : c.fetch reply id = ([], .error fault) := by
        rw [fetch, htarget]
        dsimp only
        rw [hrequest]
      rw [hfetch]
      refine .unsent (fun hsent => hsent ?_) (isStoreFailure_of_request hrequest)
      rw [hfetch]
  | ok request =>
      have hfetch : c.fetch reply id = ([request], reply.collection? url id) := by
        rw [fetch, htarget]
        dsimp only
        rw [hrequest]
      have hsent : c.Sends id reply := by
        rw [Sends, hfetch]
        exact List.cons_ne_nil _ _
      rw [hfetch]
      cases reply with
      | failure text => exact .lost hsent rfl
      | broken text => exact .broken rfl
      | response status body =>
          rw [Reply.collection?, habsolute]
          exact .received ⟨hsent, rfl⟩

end

end Client

/-! ### What a reply holds -/

/-- A fault does not tell of a failure of the store. -/
abbrev IsOther (fault : RemoteFault) : Prop := fault.isStoreFailure = false

/-- Bytes that are no text, and text that is no JSON, are no failures of the store. -/
lemma Body.document?_ends (body : Body) : EndsIn IsOther (fun _ => True) body.document? := by
  have hunits : EndsIn IsOther (fun _ => True)
      ((Text.Encoding.decode body).mapError RemoteFault.encoding) := .mapError fun _ => rfl
  exact hunits.bind fun _ _ => .mapError fun _ => rfl

lemma collectionIn_ends (v : Value) : EndsIn IsOther (fun _ => True) (collectionIn v) := by
  cases v with
  | map entries => exact .mapError fun _ => rfl
  | scalar | list | set | pair | shared => exact .error rfl

section

variable {id : String} {status : Int} {body : Body}

lemma IsSuccess.ne_unknown (h : IsSuccess status) : status ≠ 404 := by
  obtain ⟨-, hlt⟩ := h
  omega

lemma collectionOf_of_success (h : IsSuccess status) :
    collectionOf id status body = do return some (← collectionIn (← body.document?)) := by
  rw [collectionOf, if_neg h.ne_unknown]
  exact if_pos h

/-- A reply of success has a collection, or what prevents that is no failure of the store. -/
lemma collectionOf_ends_of_success (id : String) (body : Body) (h : IsSuccess status) :
    EndsIn IsOther (fun o => o.isSome = true) (collectionOf id status body) := by
  rw [collectionOf_of_success h]
  exact body.document?_ends.bind fun v _ => (collectionIn_ends v).bind fun _ _ => rfl

lemma collectionOf_of_no_success (hknown : status ≠ 404) (h : ¬IsSuccess status) :
    collectionOf id status body = .error (.status id status) := by
  rw [collectionOf, if_neg hknown]
  exact if_neg h

lemma collectionOf_eq_ok_none_iff : collectionOf id status body = .ok none ↔ status = 404 := by
  constructor
  · intro hnone
    by_contra hknown
    by_cases hsuccess : IsSuccess status
    · have hends := collectionOf_ends_of_success id body hsuccess
      rw [hnone] at hends
      cases hends
    · cases (collectionOf_of_no_success hknown hsuccess).symm.trans hnone
  · intro hunknown
    rw [collectionOf, if_pos hunknown]

/-- A fault that tells of a failure of the store is that of its status. -/
lemma collectionOf_eq_error {fault : RemoteFault}
    (h : collectionOf id status body = .error fault) (hfault : fault.isStoreFailure = true) :
    status ≠ 404 ∧ ¬IsSuccess status ∧ fault = .status id status := by
  have hknown : status ≠ 404 := by
    intro hunknown
    cases (collectionOf_eq_ok_none_iff.mpr hunknown).symm.trans h
  have hsuccess : ¬IsSuccess status := by
    intro hsuccess
    have hends := collectionOf_ends_of_success id body hsuccess
    rw [h] at hends
    cases hfault.symm.trans hends
  exact ⟨hknown, hsuccess,
    (Except.error.inj ((collectionOf_of_no_success hknown hsuccess).symm.trans h)).symm⟩

end

/-- A document in an envelope holds what it holds bare. -/
lemma collectionIn_envelope {entries : List (Scalar × Value)}
    (h : find? "collection" entries = none) :
    collectionIn (.map [(.text "collection", .map entries)]) = collectionIn (.map entries) := by
  rw [collectionIn, collectionIn, h]
  rfl

namespace Client

section

variable {c : Client} {id : String} {reply : Reply} {r : Except RemoteFault (Option Collection)}

/-- What comes back to a request decides how asking ends. -/
lemma Ends.eq_of_receives {status : Int} {body : Body} (h : c.Ends id reply r)
    (hreceived : c.Receives id reply status body) : r = collectionOf id status body := by
  cases h with
  | unsent hunsent => exact absurd hreceived.sent hunsent
  | lost _ hfailed => cases hfailed.symm.trans hreceived.came
  | broken hcame => cases hcame.symm.trans hreceived.came
  | received hother =>
      obtain ⟨rfl, rfl⟩ := hother.unique hreceived
      rfl

lemma Ends.eq_ok_none_iff (h : c.Ends id reply r) :
    r = .ok none ↔ ∃ body, c.Receives id reply 404 body := by
  constructor
  · intro hnone
    cases h with
    | unsent | lost | broken => cases hnone
    | received hreceived =>
        obtain rfl := collectionOf_eq_ok_none_iff.mp hnone
        exact ⟨_, hreceived⟩
  · rintro ⟨body, hreceived⟩
    rw [h.eq_of_receives hreceived, collectionOf_eq_ok_none_iff]

lemma Ends.fails_iff (h : c.Ends id reply r) (fault : RemoteFault) :
    r = .error fault ∧ fault.isStoreFailure = true ↔ c.Fails id reply fault := by
  constructor
  · rintro ⟨hr, hfault⟩
    cases h with
    | unsent _ hother =>
        obtain rfl := Except.error.inj hr
        cases hfault.symm.trans hother
    | lost hsent hfailed =>
        obtain rfl := Except.error.inj hr
        exact .lost hsent hfailed
    | broken =>
        obtain rfl := Except.error.inj hr
        cases hfault
    | received hreceived =>
        obtain ⟨hknown, hsuccess, rfl⟩ := collectionOf_eq_error hr hfault
        exact .status hreceived hknown hsuccess
  · intro hfails
    cases hfails with
    | lost hsent hfailed =>
        refine ⟨?_, rfl⟩
        cases h with
        | unsent hunsent => exact absurd hsent hunsent
        | lost _ hother =>
            obtain rfl := Reply.failure.inj (hother.symm.trans hfailed)
            rfl
        | broken hcame => cases hcame.symm.trans hfailed
        | received hreceived => cases hreceived.came.symm.trans hfailed
    | status hreceived hknown hsuccess =>
        exact ⟨(h.eq_of_receives hreceived).trans (collectionOf_of_no_success hknown hsuccess), rfl⟩

lemma Ends.eq_ok_some_iff (h : c.Ends id reply r) (d : Collection) :
    r = .ok (some d) ↔ ∃ status body v, c.Receives id reply status body ∧ IsSuccess status ∧
      body.document? = .ok v ∧ v.Holds d := by
  constructor
  · intro hsome
    cases h with
    | unsent | lost | broken => cases hsome
    | received hreceived =>
        obtain ⟨hsuccess, v, hv, hholds⟩ := collectionOf_eq_ok_some_iff.mp hsome
        exact ⟨_, _, v, hreceived, hsuccess, hv, hholds⟩
  · rintro ⟨status, body, v, hreceived, hsuccess, hv, hholds⟩
    rw [h.eq_of_receives hreceived, collectionOf_eq_ok_some_iff]
    exact ⟨hsuccess, v, hv, hholds⟩

/-- Replies that hold the same lead to the same end. -/
lemma fetch_congr {other : Reply}
    (h : ∀ url, reply.collection? url id = other.collection? url id) :
    c.fetch reply id = c.fetch other id := by
  rw [fetch, fetch]
  simp only [h]

end

end Client

/-- **Replies are told apart**: a collection asked for at a well-formed address is unknown exactly
if the status 404 comes back, whatever the body; a failure of the store is told exactly if the
request is lost on the way or another status that does not tell of success comes back, whatever the
body; and a collection is found exactly if a status of success comes back with a document that holds
it. The document may be bare or in an envelope: both are read alike. -/
theorem replies_are_told_apart (c : Client) (id : String) :
    (c.HasAddress id → ∀ reply,
      ((c.fetch reply id).2 = .ok none ↔ ∃ body, c.Receives id reply 404 body) ∧
      (∀ fault, (c.fetch reply id).2 = .error fault ∧ fault.isStoreFailure = true ↔
        c.Fails id reply fault) ∧
      ∀ d, (c.fetch reply id).2 = .ok (some d) ↔ ∃ status body v,
        c.Receives id reply status body ∧ IsSuccess status ∧ body.document? = .ok v ∧
          v.Holds d) ∧
    ∀ (entries : List (Scalar × Value)) (status status' : Int) (body body' : Body),
      find? "collection" entries = none → IsSuccess status → IsSuccess status' →
      body.document? = .ok (.map entries) →
      body'.document? = .ok (.map [(.text "collection", .map entries)]) →
      c.fetch (.response status body) id = c.fetch (.response status' body') id := by
  refine ⟨fun h reply => ?_, ?_⟩
  · have hends := c.fetch_ends h reply
    exact ⟨hends.eq_ok_none_iff, hends.fails_iff, hends.eq_ok_some_iff⟩
  · intro entries status status' body body' hbare hsuccess hsuccess' hbody hbody'
    refine Client.fetch_congr fun url => ?_
    have hsame : collectionOf id status body = collectionOf id status' body' := by
      rw [collectionOf_of_success hsuccess, collectionOf_of_success hsuccess', hbody, hbody']
      change (do return some (← collectionIn _)) = (do return some (← collectionIn _))
      rw [collectionIn_envelope hbare]
    rw [Reply.collection?, Reply.collection?, hsame]

/-! ### Replies to one request -/

namespace Sample

/-- A client without a site. -/
def plainClient : Client := ⟨"key", none, "https://data.test", 10⟩

/-- The entries of a document that is a collection. -/
def postsEntries : List (Scalar × Value) := [(.text "_id", .text "Posts")]

/-- The collection. -/
def postsCollection : Collection := ⟨"Posts", none, []⟩

/-- The document as text. -/
def bareText : String := "\x7b\"_id\": \"Posts\"\x7d"

/-- The document in an envelope. -/
def envelopeText : String := "\x7b\"collection\": \x7b\"_id\": \"Posts\"\x7d\x7d"

/-- A body with the document, bare. -/
def bareBody : Body := Text.Utf8.encode bareText.toList

/-- A body with the document in an envelope, behind a mark of the byte order. -/
def envelopeBody : Body := [0xef, 0xbb, 0xbf] ++ Text.Utf8.encode envelopeText.toList

/-- A reply with the document, bare. -/
def postsReply (status : Int) : Reply := .response status bareBody

/-- A reply with the document in an envelope. -/
def envelopeReply (status : Int) : Reply := .response status envelopeBody

lemma document?_bareBody : bareBody.document? = .ok (.map postsEntries) := by
  have hdecodes : Text.Encoding.decode bareBody = .ok (bareText.toList.map Char.toNat) := by
    decide +kernel
  refine Body.document?_of_text hdecodes ?_
  simp only [bareText, String.reduceToList, List.map_cons, List.map_nil, Char.reduceToNat]
  rfl

lemma document?_envelopeBody :
    envelopeBody.document? = .ok (.map [(.text "collection", .map postsEntries)]) := by
  have hdecodes : Text.Encoding.decode envelopeBody = .ok (envelopeText.toList.map Char.toNat) := by
    decide +kernel
  refine Body.document?_of_text hdecodes ?_
  simp only [envelopeText, String.reduceToList, List.map_cons, List.map_nil, Char.reduceToNat]
  rfl

lemma hasAddress_posts : plainClient.HasAddress "Posts" := ⟨_, rfl, rfl⟩

lemma receives_posts (status : Int) :
    plainClient.Receives "Posts" (postsReply status) status bareBody :=
  ⟨List.cons_ne_nil _ _, rfl⟩

end Sample

theorem replies_are_told_apart_sample :
    (Sample.plainClient.fetch (Sample.postsReply 404) "Posts").2 = .ok none ∧
      (Sample.plainClient.fetch (Sample.postsReply 500) "Posts").2 =
        .error (.status "Posts" 500) ∧
      (Sample.plainClient.fetch (.failure "connection refused") "Posts").2 =
        .error (.transport "Posts" "connection refused") ∧
      (Sample.plainClient.fetch (Sample.envelopeReply 201) "Posts").2 =
        .ok (some Sample.postsCollection) := by
  have hok : IsSuccess 200 := ⟨by decide, by decide⟩
  have hcreated : IsSuccess 201 := ⟨by decide, by decide⟩
  have hfailed : ¬IsSuccess 500 := fun h => absurd h.2 (by decide)
  obtain ⟨htold, henvelope⟩ := replies_are_told_apart Sample.plainClient "Posts"
  have htold := htold Sample.hasAddress_posts
  obtain ⟨hunknown, -, -⟩ := htold (Sample.postsReply 404)
  obtain ⟨-, hstatus, -⟩ := htold (Sample.postsReply 500)
  obtain ⟨-, hlost, -⟩ := htold (.failure "connection refused")
  obtain ⟨-, -, hfound⟩ := htold (Sample.postsReply 200)
  have hsame : Sample.plainClient.fetch (Sample.postsReply 200) "Posts" =
      Sample.plainClient.fetch (Sample.envelopeReply 201) "Posts" :=
    henvelope Sample.postsEntries 200 201 _ _ rfl hok hcreated Sample.document?_bareBody
      Sample.document?_envelopeBody
  refine ⟨hunknown.mpr ⟨_, Sample.receives_posts 404⟩,
    ((hstatus _).mpr (.status (Sample.receives_posts 500) (by decide) hfailed)).1,
    ((hlost _).mpr (.lost (List.cons_ne_nil _ _) rfl)).1, ?_⟩
  rw [← hsame]
  exact (hfound _).mpr
    ⟨200, _, .map Sample.postsEntries, Sample.receives_posts 200, hok, Sample.document?_bareBody,
      .bare rfl rfl⟩

end WidgetContracts
