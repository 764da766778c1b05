import CanisterGateway.Gateway.Outbound
import CanisterGateway.Gateway.Trust
import CanisterGateway.Gateway.TrustAnchor

/-!
# One request through the gateway

A request is sent to the canister as a query. If the canister asks for an upgrade, the request is
replayed as an update call, whose answer went through consensus and is served as it is. Otherwise
the query's answer is verified, unless the caller asked to skip that, and of a verified answer
only the certified part is served.

Nothing fails outwardly: a failure becomes an error response, and the cause is kept in the
metadata. Only a verifier that ends without a verdict leaves the request without a response.

Whatever the gateway does outside itself is a call, and a call is made and recorded at once: what
calls obtain is a `Traced` value, whose record is that of its parts.

## Main results

* `narrow_of_none`, `narrow_of_some` — an acceptance that names no part leaves the answer whole, and
  otherwise only the part is left.
-/

namespace CanisterGateway.Gateway

/-! ## Those who are asked -/

/-- How calls to canisters are answered. -/
structure Endpoint where
  query : Principal → Canister.Request → Except Error Canister.Response
  update : Principal → Canister.Request → Except Error Canister.Response

/-- What all requests through a gateway share. -/
structure Context where
  certificateVersion : UInt16
  anchor : TrustAnchor
  verifier : Verifier

/-- A context that announces the greatest version of certification. -/
def Context.ofAnchor (anchor : TrustAnchor) (verifier : Verifier) : Context where
  certificateVersion := Certification.greatestVersion.toUInt16
  anchor := anchor
  verifier := verifier

/-- A request for a canister. The time is that of a verification, should there be one. -/
structure Visit where
  request : Http.Request
  canister : Principal
  skipVerification : Bool
  now : Nat

/-! ## What happens -/

/-- Something that the gateway does outside itself. -/
inductive Call
  | query (canister : Principal) (request : Canister.Request)
  | update (canister : Principal) (request : Canister.Request)
  /-- The root key is resolved; the provider is asked only if it has to be. -/
  | rootKey (asked : Bool)
  | verify (request : Canister.Request) (response : Canister.Response)
      (bounds : Certification.TrustBounds)

/-- What calls have obtained, with the calls in their order. -/
structure Traced (α : Type) where
  value : α
  calls : List Call

namespace Traced

instance : Monad Traced where
  pure value := ⟨value, []⟩
  bind first next := ⟨(next first.value).value, first.calls ++ (next first.value).calls⟩

@[simp] theorem pure_eq {α : Type} (value : α) : (pure value : Traced α) = ⟨value, []⟩ := rfl

@[simp] theorem bind_eq {α β : Type} (first : Traced α) (next : α → Traced β) :
    (first >>= next) =
      ⟨(next first.value).value, first.calls ++ (next first.value).calls⟩ := rfl

/-- What was obtained, with its record put into it. -/
def recorded {α : Type} (traced : Traced (List Call → α)) : α :=
  traced.value traced.calls

end Traced

/-- Sends a query. -/
def Endpoint.callQuery (endpoint : Endpoint) (canister : Principal)
    (request : Canister.Request) : Traced (Except Error Canister.Response) :=
  ⟨endpoint.query canister request, [.query canister request]⟩

/-- Sends an update call. -/
def Endpoint.callUpdate (endpoint : Endpoint) (canister : Principal)
    (request : Canister.Request) : Traced (Except Error Canister.Response) :=
  ⟨endpoint.update canister request, [.update canister request]⟩

/-- Resolves the root key, where `answer` is what its provider says if it is asked. -/
def Context.callRootKey (context : Context) (answer : KeyResult) : Traced TrustAnchor.Resolution :=
  let resolution := context.anchor.resolve answer
  ⟨resolution, [.rootKey resolution.asked]⟩

/-- Asks the verifier. -/
def Context.callVerifier (context : Context) (request : Canister.Request)
    (response : Canister.Response) (bounds : Certification.TrustBounds) (now : Nat) :
    Traced (Except (Certification.Stop Error) Certification.Acceptance) :=
  ⟨context.verifier request response bounds now, [.verify request response bounds]⟩

/-- What is known about a response beside it. -/
structure Metadata where
  upgraded : Bool
  version? : Option UInt16
  error? : Option Error
  deriving DecidableEq

/-- The answer to a request. -/
structure Answer where
  response : Http.Response
  streaming? : Option Canister.Streaming
  metadata : Metadata

/-- A request's answer, unless the verifier ended without a verdict, with what was done for it and
what is known of the root key afterwards. -/
structure Exchange where
  answer? : Option Answer
  calls : List Call
  anchor : TrustAnchor

/-! ## Verification -/

/-- A verdict on a response, and what is known of the root key then. -/
structure Judgement where
  verdict : Except (Certification.Stop Error) Certification.Acceptance
  anchor : TrustAnchor

/-- A verdict on a response, with what was done to reach it. -/
abbrev Validation := Traced Judgement

namespace Validation

def verdict (validation : Validation) :
    Except (Certification.Stop Error) Certification.Acceptance :=
  validation.value.verdict

def anchor (validation : Validation) : TrustAnchor :=
  validation.value.anchor

end Validation

/-- Verifies a response to a request, where `answer` is what the provider of the root key says if it
is asked. -/
def Context.validate (context : Context) (answer : KeyResult) (canister : Principal)
    (request : Canister.Request) (response : Canister.Response) (now : Nat) : Validation := do
  let resolution ← context.callRootKey answer
  match resolution.result with
  | .error error => return ⟨.error (.fault error), resolution.anchor⟩
  | .ok key =>
    let verdict ← context.callVerifier request response (trustBounds canister key) now
    return ⟨verdict, resolution.anchor⟩

/-- The part of a query's answer that may be served. -/
def narrow (response : Canister.Response) (acceptance : Certification.Acceptance) :
    Canister.Response :=
  match acceptance.part? with
  | none => response
  | some part =>
    { response with
      headers := part.headers
      body := part.body
      statusCode := part.statusCode?.getD response.statusCode }

theorem narrow_of_none {response : Canister.Response} {acceptance : Certification.Acceptance}
    (h : acceptance.part? = none) : narrow response acceptance = response := by
  simp only [narrow, h]

theorem narrow_of_some {response : Canister.Response} {acceptance : Certification.Acceptance}
    {part : Certification.CertifiedPart} (h : acceptance.part? = some part) :
    narrow response acceptance =
      { response with
        headers := part.headers
        body := part.body
        statusCode := part.statusCode?.getD response.statusCode } := by
  simp only [narrow, h]

/-! ## The protocol -/

/-- The canister's response that may be served, with the traces of getting it. -/
structure Fetched where
  result : Except (Certification.Stop Error) Canister.Response
  upgraded : Bool
  version? : Option UInt16
  calls : List Call
  anchor : TrustAnchor

/-- A failure, or nothing to say. -/
def failed {α : Type} (result : Except Error α) : Except (Certification.Stop Error) α :=
  result.mapError .fault

/-- Gets the canister's response that may be served. -/
def fetch (endpoint : Endpoint) (context : Context) (answer : KeyResult) (visit : Visit) :
    Fetched :=
  let request := Canister.Request.ofHttp visit.request context.certificateVersion
  Traced.recorded do
    match ← endpoint.callQuery visit.canister request with
    | .error error =>
      return fun calls => ⟨.error (.fault error), false, none, calls, context.anchor⟩
    | .ok response =>
      if response.isUpgrade then
        let replayed ← endpoint.callUpdate visit.canister request.forUpdate
        return fun calls => ⟨failed replayed, true, none, calls, context.anchor⟩
      else if visit.skipVerification then
        return fun calls => ⟨.ok response, false, none, calls, context.anchor⟩
      else
        let judgement ← context.validate answer visit.canister request response visit.now
        match judgement.verdict with
        | .error stop => return fun calls => ⟨.error stop, false, none, calls, judgement.anchor⟩
        | .ok acceptance =>
          return fun calls =>
            ⟨.ok (narrow response acceptance), false, some acceptance.version, calls,
              judgement.anchor⟩

/-- The answer to a request whose canister's response was fetched. -/
def Fetched.answer? (fetched : Fetched) : Option Answer :=
  match fetched.result.bind fun response => failed (Outbound.ofCanister response) with
  | .ok outbound =>
    some ⟨outbound.response, outbound.streaming?, ⟨fetched.upgraded, fetched.version?, none⟩⟩
  | .error (.fault error) =>
    some ⟨errorResponse error, none, ⟨fetched.upgraded, none, some error⟩⟩
  | .error .aborted => none

/-- Serves a request. -/
def serve (endpoint : Endpoint) (context : Context) (answer : KeyResult) (visit : Visit) :
    Exchange :=
  let fetched := fetch endpoint context answer visit
  ⟨fetched.answer?, fetched.calls, fetched.anchor⟩

end CanisterGateway.Gateway
