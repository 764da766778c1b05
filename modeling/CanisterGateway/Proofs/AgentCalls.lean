import CanisterGateway.Replica.Agent
import CanisterGateway.Proofs.Arguments
import CanisterGateway.Proofs.Course
import CanisterGateway.Proofs.Replies

/-!
# Calls over an agent

An agent hands a request on to one of two methods and makes a response of what comes back. Queries
and update calls go different ways: the answers to queries may still have to be read as bodies, and
those to update calls come in certificates. Either way the call comes to the argument of a reply or
to an error, and from there on both are treated alike.

A request is handed on as it is; only an update call leaves out the certificate version. Errors of
calls are handed back as they are, so a request that fails over an agent fails on the way.

## Main results

* `QueryAnswer.read_eq_bind`, `UpdateAnswer.read_eq_bind` — both calls make the same of what they
  come to.
* `endpoint_faithful` — what canisters are told over an agent, and what comes back.
-/

namespace CanisterGateway.Replica

/-! ## What a call comes to -/

/-- The argument that a query was answered with, or why there is none. -/
def QueryBody.Reply.outcome : QueryBody.Reply → Except CallError Bytes
  | .replied argument => .ok argument
  | .rejected code message errorCode? => .error (readRejection code message errorCode?)

/-- What the answer to a query comes to. -/
def QueryAnswer.outcome : QueryAnswer → Except CallError Bytes
  | .failure error => .error error
  | .reply said => said.outcome
  | .body bytes => ((QueryBody.Reply.ofBytes? bytes).map (·.outcome)).getD (.error .cbor)

/-- What a certificate says that the call came to. -/
def UpdateOutcome.outcome : UpdateOutcome → Except CallError Bytes
  | .replied argument => .ok argument
  | .rejected code message =>
    match RejectCode.ofNat? code with
    | some code => .error (.rejected true ⟨code, message, none⟩)
    | none => .error (.rejectCode code)

/-- What the answer to an update call comes to, as far as the trusted key vouches for it. -/
def UpdateAnswer.outcome (trusted : Bytes) : UpdateAnswer → Except CallError Bytes
  | .failure error => .error error
  | .rejected code message errorCode? => .error (readRejection code message errorCode?)
  | .certified signer said => (checkSigner trusted signer).bind fun _ => said.outcome

theorem QueryAnswer.read_eq_bind (answer : QueryAnswer) :
    answer.read = answer.outcome.bind readReply := by
  cases answer with
  | failure error => rfl
  | reply said => cases said <;> rfl
  | body bytes =>
      simp only [QueryAnswer.read, QueryAnswer.outcome]
      cases QueryBody.Reply.ofBytes? bytes with
      | none => rfl
      | some said => cases said <;> rfl

theorem UpdateOutcome.read_eq_bind (said : UpdateOutcome) :
    said.read = said.outcome.bind readReply := by
  cases said with
  | replied argument => rfl
  | rejected code message =>
      simp only [UpdateOutcome.read, UpdateOutcome.outcome]
      cases RejectCode.ofNat? code <;> rfl

theorem UpdateAnswer.read_eq_bind (trusted : Bytes) (answer : UpdateAnswer) :
    answer.read trusted = (answer.outcome trusted).bind readReply := by
  cases answer with
  | failure error => rfl
  | rejected code message errorCode? => rfl
  | certified signer said =>
      simp only [UpdateAnswer.read, UpdateAnswer.outcome]
      cases checkSigner trusted signer with
      | error error => rfl
      | ok _ => exact said.read_eq_bind

/-! ## A sample reply -/

/-- A reply with a repeated header, an upgrade flag that is not set, and a callback. -/
def callbackReply : Bytes :=
  Candid.magic ++
    -- the types: a response, bytes, headers and a header, a flag, strategies, a callback and a part
    [10,
      0x6C, 5, 0xA2, 0xF5, 0xED, 0x88, 0x04, 1, 0xC6, 0xA4, 0xA1, 0x98, 0x06, 2,
        0x9C, 0xE9, 0xC6, 0x99, 0x06, 4, 0xB0, 0x96, 0x99, 0xE2, 0x0C, 5,
        0x9A, 0xA1, 0xB2, 0xF9, 0x0C, 0x7A,
      0x6D, 0x7B, 0x6D, 3, 0x6C, 2, 0, 0x71, 1, 0x71, 0x6E, 0x7E,
      0x6E, 6, 0x6B, 1, 0xE5, 0xAB, 0xE1, 0xC5, 0x05, 7,
      0x6C, 2, 0xF9, 0x85, 0xAE, 0xA1, 0x01, 0x71, 0xC5, 0xB3, 0x9A, 0xF8, 0x07, 8,
      0x6A, 1, 0x71, 1, 9, 1, 1, 0x6C, 1, 0xA2, 0xF5, 0xED, 0x88, 0x04, 1,
      1, 0,
    -- the body, the headers, the flag, the token with its callback, and the status
      3, 0x61, 0x62, 0x63, 2, 1, 0x61, 1, 0x31, 1, 0x61, 1, 0x32, 1, 0,
      1, 0, 1, 0x74, 1, 1, 1, 7, 1, 0x6D, 0xC8, 0]

/-- A network that answers all queries alike, and no update calls. -/
def Network.ofReply (reply : Bytes) : Network where
  query := fun _ _ _ => .reply (.replied reply)
  update := fun _ _ _ => .failure .timeout
  status := .error .timeout

namespace Agent

/-- What the query for a request comes to. -/
def queried (network : Network) (canister : Principal) (request : Canister.Request) :
    Except CallError Bytes :=
  (network.query canister "http_request" request.queryArgument).outcome

/-- What the update call for a request comes to. -/
def updated (agent : Agent) (network : Network) (canister : Principal)
    (request : Canister.Request) : Except CallError Bytes :=
  (network.update canister "http_request_update" request.updateArgument).outcome agent.rootKey

/-! ## What comes back -/

/-- The response that is made of what a call came to. -/
def converted (outcome : Except CallError Bytes) : Except Gateway.Error Canister.Response :=
  (outcome.bind readReply).mapError .call

/-- A call that came to something is reported faithfully: the response is the one that the reply's
message shows, and nothing but a reply that cannot be read adds an error. -/
structure Reported (outcome : Except CallError Bytes)
    (result : Except Gateway.Error Canister.Response) : Prop where
  replied : ∀ reply, outcome = .ok reply → ∀ response, result = .ok response ↔
    ∃ message, Candid.Message.ofBytes reply = .ok message ∧ response.ShownBy message
  unreadable : ∀ reply fault, outcome = .ok reply →
    Canister.Response.ofBytes reply = .error fault → result = .error (.call (.candid fault))
  failed : ∀ error, outcome = .error error → result = .error (.call error)

theorem reported_converted (outcome : Except CallError Bytes) :
    Reported outcome (converted outcome) where
  replied := by
    intro reply hReply response
    rw [hReply, ← Canister.ofBytes_ok_iff, converted, Except.bind, readReply]
    cases Canister.Response.ofBytes reply <;> simp [Except.mapError]
  unreadable := by
    intro reply fault hReply hFault
    rw [hReply, converted, Except.bind, readReply, hFault]
    rfl
  failed := by
    intro error hError
    rw [hError]
    rfl

theorem query_eq_converted (agent : Agent) (network : Network) (canister : Principal)
    (request : Canister.Request) :
    (agent.endpoint network).query canister request =
      converted (queried network canister request) := by
  show (query network canister request).mapError Gateway.Error.call = _
  rw [query, QueryAnswer.read_eq_bind]
  rfl

theorem update_eq_converted (agent : Agent) (network : Network) (canister : Principal)
    (request : Canister.Request) :
    (agent.endpoint network).update canister request =
      converted (agent.updated network canister request) := by
  show (agent.update network canister request).mapError Gateway.Error.call = _
  rw [update, UpdateAnswer.read_eq_bind]
  rfl

theorem kind_of_converted {outcome : Except CallError Bytes} {error : Gateway.Error}
    (h : converted outcome = .error error) : error.kind = .transport := by
  unfold converted at h
  cases hRead : outcome.bind readReply with
  | error fault =>
      rw [hRead] at h
      have hCall : Gateway.Error.call fault = error := Except.error.inj h
      rw [← hCall]
      rfl
  | ok response =>
      rw [hRead] at h
      contradiction

/-! ## Requests over an agent -/

section

variable {agent : Agent} {network : Network} {context : Gateway.Context}
  {answer : Gateway.KeyResult} {visit : Gateway.Visit} {error : Gateway.Error}

/-- A query that fails ends the request. -/
theorem serve_of_query_error
    (h : (agent.endpoint network).query visit.canister
      (visit.query context.certificateVersion) = .error error) :
    error.kind = .transport ∧
      (Gateway.serve (agent.endpoint network) context answer visit).answer? =
        some (.failure error false) := by
  constructor
  · rw [query_eq_converted] at h
    exact kind_of_converted h
  · exact (Gateway.Course.unanswered h).answer?_of_fault rfl

/-- So does an update call that fails after the canister asked for it. -/
theorem serve_of_update_error {provisional : Canister.Response}
    (hQuery : (agent.endpoint network).query visit.canister
      (visit.query context.certificateVersion) = .ok provisional)
    (hUpgrade : provisional.upgrade? = some true)
    (h : (agent.endpoint network).update visit.canister
      (visit.query context.certificateVersion).forUpdate = .error error) :
    error.kind = .transport ∧
      (Gateway.serve (agent.endpoint network) context answer visit).answer? =
        some (.failure error true) := by
  constructor
  · rw [update_eq_converted] at h
    exact kind_of_converted h
  · have hFailed : Gateway.failed ((agent.endpoint network).update visit.canister
        (visit.query context.certificateVersion).forUpdate) = .error (.fault error) := by
      rw [h]
      rfl
    exact (Gateway.Course.escalated hQuery hUpgrade).answer?_of_fault hFailed

end

/--
What canisters are told over an agent, and what comes back of it.

The query method is handed all of a request, and the update method all of it but the certificate
version. Each argument is a message that shows the request field by field, the headers in their
order, as long as a message can tell its lengths; and however long it is, no other request has it.
What either call comes to is reported faithfully, and alike if they come to the same. A call that
fails, or has a reply that cannot be read, ends the request with its error, which is one of
transport.
-/
theorem endpoint_faithful (agent : Agent) (network : Network) (canister : Principal)
    (request : Canister.Request) :
    (request.Fits →
      request.CarriedBy request.queryArgument
        (some (Canister.shownVersion request.certificateVersion?)) ∧
      request.CarriedBy request.forUpdate.updateArgument none) ∧
    (∀ other : Canister.Request,
      (other.queryArgument = request.queryArgument ↔ other = request) ∧
      (other.forUpdate.updateArgument = request.forUpdate.updateArgument ↔
        other.forUpdate = request.forUpdate)) ∧
    Reported (queried network canister request)
      ((agent.endpoint network).query canister request) ∧
    Reported (agent.updated network canister request.forUpdate)
      ((agent.endpoint network).update canister request.forUpdate) ∧
    (queried network canister request = agent.updated network canister request.forUpdate →
      (agent.endpoint network).query canister request =
        (agent.endpoint network).update canister request.forUpdate) ∧
    (∀ (context : Gateway.Context) (answer : Gateway.KeyResult) (visit : Gateway.Visit),
      visit.canister = canister → visit.query context.certificateVersion = request →
      let served := Gateway.serve (agent.endpoint network) context answer visit
      (∀ error, (agent.endpoint network).query canister request = .error error →
        error.kind = .transport ∧ served.answer? = some (.failure error false)) ∧
      (∀ provisional error, (agent.endpoint network).query canister request = .ok provisional →
        provisional.upgrade? = some true →
        (agent.endpoint network).update canister request.forUpdate = .error error →
        error.kind = .transport ∧ served.answer? = some (.failure error true))) := by
  refine ⟨?_, ?_, ?_, ?_, ?_, ?_⟩
  · intro hFits
    exact ⟨Canister.carriedBy_queryArgument hFits, Canister.carriedBy_updateArgument hFits⟩
  · intro other
    refine ⟨⟨Canister.Request.queryArgument_injective, ?_⟩,
      Canister.Request.updateArgument_eq_iff⟩
    intro hSame
    rw [hSame]
  · rw [query_eq_converted]
    exact reported_converted _
  · rw [update_eq_converted]
    exact reported_converted _
  · intro hSame
    rw [query_eq_converted, update_eq_converted, hSame]
  · intro context answer visit hCanister hRequest served
    subst hCanister
    subst hRequest
    constructor
    · intro error hQuery
      exact serve_of_query_error hQuery
    · intro provisional error hQuery hUpgrade hUpdate
      exact serve_of_update_error hQuery hUpgrade hUpdate

set_option maxRecDepth 2000 in
/-- A reply with a callback is told in full, an update call that takes too long is an error, and a
reply that cannot be read ends the request. -/
theorem endpoint_faithful_of_callback :
    let network := Network.ofReply callbackReply
    let canister : Principal := ⟨[7], by decide⟩
    let request : Canister.Request :=
      ⟨"/a?b", "GET", [], [("accept", "a"), ("host", "c"), ("accept", "b")], some 2⟩
    let response : Canister.Response :=
      ⟨200, [("a", "1"), ("a", "2")], Bytes.ofText "abc", some false,
        some ⟨canister, "m", .text "t"⟩⟩
    let context := Gateway.Context.ofAnchor (.preset [1]) Gateway.certificateVerifier
    request.Fits ∧ request.CarriedBy request.forUpdate.updateArgument none ∧
      (∃ message, Candid.Message.ofBytes callbackReply = .ok message ∧
        response.ShownBy message) ∧
      (mainnet.endpoint network).update canister request.forUpdate = .error (.call .timeout) ∧
      (Gateway.serve (mainnet.endpoint (.ofReply [])) context (.ok []) (.frontPage false)).answer? =
        some (.failure (.call (.candid .typeSection)) false) := by
  intro network canister request response context
  have hFits : request.Fits := ⟨by decide, by decide, by decide, by decide, by decide⟩
  obtain ⟨hCarried, -, hQueried, hUpdated, -⟩ :=
    endpoint_faithful mainnet network canister request
  have hResponse : (mainnet.endpoint network).query canister request = .ok response := rfl
  let visit := Gateway.Visit.frontPage false
  obtain ⟨-, -, hUnread, -, -, hServed⟩ :=
    endpoint_faithful mainnet (.ofReply []) visit.canister (visit.query context.certificateVersion)
  have hError := hUnread.unreadable [] .typeSection rfl rfl
  exact ⟨hFits, (hCarried hFits).2, (hQueried.replied callbackReply rfl response).mp hResponse,
    hUpdated.failed .timeout rfl, ((hServed context (.ok []) visit rfl rfl).1 _ hError).2⟩

end Agent
end CanisterGateway.Replica
