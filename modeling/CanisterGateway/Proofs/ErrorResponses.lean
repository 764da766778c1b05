import CanisterGateway.Gateway.Outbound
import CanisterGateway.Proofs.Encoding

/-!
# What a failure looks like to a client

A failure has a class, by which operators know it, and a response, by which clients know it. The
two are told apart in different places, and this is where they are shown to agree: the status says
the class. Only failures on the way to the canister have more than one status, for two of them are
told apart from the others.

A call can fail in many ways, but only three responses come of it. All that is said of failed calls
follows from that.

## Main results

* `callErrorResponse_cases` — the three responses to a failed call.
* `errorResponse_agrees_with_kind` — the response to a failure and its class.
-/

namespace CanisterGateway.Gateway

open Replica

/-! ## Failed calls -/

/-- The call was rejected, with this message, because there is no such destination. -/
def NoDestination (error : CallError) (message : String) : Prop :=
  ∃ certified reject, error = .rejected certified reject ∧ reject.code = .destinationInvalid ∧
    reject.message = message

theorem callErrorResponse_of_noDestination {error : CallError} {message : String}
    (h : NoDestination error message) :
    callErrorResponse error = .ofText .notFound message := by
  obtain ⟨certified, reject, rfl, hCode, rfl⟩ := h
  simp only [callErrorResponse, if_pos hCode]

/-- Every other call that failed is answered in one way, whatever its wording is. -/
theorem callErrorResponse_of_other {error : CallError}
    (hReject : ∀ message, ¬ NoDestination error message) (hSize : error ≠ .replyTooLarge) :
    ∃ text, callErrorResponse error = .ofText .badGateway text := by
  unfold callErrorResponse
  split
  case h_1 certified reject =>
    have hCode : reject.code ≠ .destinationInvalid := by
      intro hCode
      exact hReject reject.message ⟨certified, reject, rfl, hCode, rfl⟩
    rw [if_neg hCode]
    exact ⟨_, rfl⟩
  case h_2 => exact absurd rfl hSize
  case h_3 => exact ⟨_, rfl⟩

/-- A call to a destination that does not exist, one with too long a reply, and any other. -/
theorem callErrorResponse_cases (error : CallError) :
    (∃ message, NoDestination error message ∧
        callErrorResponse error = .ofText .notFound message) ∨
      (error = .replyTooLarge ∧
        ∃ text, callErrorResponse error = .ofText .insufficientStorage text) ∨
      ((∀ message, ¬ NoDestination error message) ∧ error ≠ .replyTooLarge ∧
        ∃ text, callErrorResponse error = .ofText .badGateway text) := by
  by_cases hReject : ∃ message, NoDestination error message
  · obtain ⟨message, hMessage⟩ := hReject
    exact .inl ⟨message, hMessage, callErrorResponse_of_noDestination hMessage⟩
  · have hNone : ∀ message, ¬ NoDestination error message := not_exists.mp hReject
    by_cases hSize : error = .replyTooLarge
    · subst hSize
      exact .inr (.inl ⟨rfl, _, rfl⟩)
    · exact .inr (.inr ⟨hNone, hSize, callErrorResponse_of_other hNone hSize⟩)

theorem not_noDestination_replyTooLarge (message : String) :
    ¬ NoDestination .replyTooLarge message := by
  intro ⟨certified, reject, hSame, _⟩
  cases hSame

/-! ## All failures -/

/-- A text begins with what it is continued from, and so do its bytes. -/
theorem prefix_ofText_append (text more : String) :
    Bytes.ofText text <+: Bytes.ofText (text ++ more) := by
  rw [Bytes.Utf8.ofText_append]
  exact List.prefix_append _ _

/-- The response to a failed call has no status that is that of another class. -/
theorem callErrorResponse_code (error : CallError) :
    let code := (callErrorResponse error).status.code
    (code = 404 ∨ code = 507 ∨ code = 502) ∧
      (code = 404 ↔ ∃ message, NoDestination error message) ∧
      (code = 507 ↔ error = .replyTooLarge) := by
  rcases callErrorResponse_cases error with
    ⟨message, hReject, hResponse⟩ | ⟨hSize, text, hResponse⟩ | ⟨hReject, hSize, text, hResponse⟩
  · have hOther : error ≠ .replyTooLarge := by
      intro hSize
      exact not_noDestination_replyTooLarge message (hSize ▸ hReject)
    rw [hResponse]
    exact ⟨.inl rfl, ⟨fun _ => ⟨message, hReject⟩, fun _ => rfl⟩, ⟨nofun, fun h => absurd h hOther⟩⟩
  · have hOther : ¬ ∃ message, NoDestination error message := by
      intro ⟨message, hReject⟩
      exact not_noDestination_replyTooLarge message (hSize ▸ hReject)
    rw [hResponse]
    exact ⟨.inr (.inl rfl), ⟨nofun, fun h => absurd h hOther⟩, ⟨fun _ => hSize, fun _ => rfl⟩⟩
  · rw [hResponse]
    refine ⟨.inr (.inr rfl), ⟨nofun, ?_⟩, ⟨nofun, fun h => absurd h hSize⟩⟩
    intro ⟨message, hMessage⟩
    exact absurd hMessage (hReject message)

/-- The status of the response to a failure, class by class. -/
theorem errorResponse_code (error : Error) :
    let code := (errorResponse error).status.code
    (error.kind = .transport ∧ (code = 404 ∨ code = 507 ∨ code = 502)) ∨
      (error.kind = .verification ∧ code = 500) ∨ (error.kind = .mapping ∧ code = 400) ∨
      (error.kind = .internal ∧ code = 500) := by
  cases error with
  | call error => exact .inl ⟨rfl, (callErrorResponse_code error).1⟩
  | status => exact .inl ⟨rfl, .inr (.inr rfl)⟩
  | verification fault => exact .inr (.inl ⟨rfl, rfl⟩)
  | requestBody text => exact .inr (.inr (.inl ⟨rfl, rfl⟩))
  | http fault => exact .inr (.inr (.inr ⟨rfl, rfl⟩))
  | rootKeyUnavailable => exact .inr (.inr (.inr ⟨rfl, rfl⟩))

/-- Not found are destinations that do not exist. -/
theorem errorResponse_notFound_iff (error : Error) :
    (errorResponse error).status.code = 404 ↔
      ∃ certified reject, error = .call (.rejected certified reject) ∧
        reject.code = .destinationInvalid := by
  cases error with
  | call error =>
      have hCall : (callErrorResponse error).status.code = 404 ↔
          ∃ message, NoDestination error message := (callErrorResponse_code error).2.1
      refine hCall.trans ⟨?_, ?_⟩
      · intro ⟨message, certified, reject, hSame, hCode, _⟩
        exact ⟨certified, reject, congrArg Error.call hSame, hCode⟩
      · intro ⟨certified, reject, hSame, hCode⟩
        exact ⟨reject.message, certified, reject, Error.call.inj hSame, hCode, rfl⟩
  | _ => exact ⟨nofun, fun ⟨_, _, hSame, _⟩ => nomatch hSame⟩

theorem errorResponse_insufficientStorage_iff (error : Error) :
    (errorResponse error).status.code = 507 ↔ error = .call .replyTooLarge := by
  cases error with
  | call error =>
      have hCall : (callErrorResponse error).status.code = 507 ↔ error = .replyTooLarge :=
        (callErrorResponse_code error).2.2
      exact hCall.trans ⟨congrArg Error.call, Error.call.inj⟩
  | _ => exact ⟨nofun, nofun⟩

/-- What was not verified is said not to be. -/
theorem prefix_errorResponse_body {error : Error}
    (h : error.kind = .verification ∨ error = .rootKeyUnavailable) :
    Bytes.ofText "Response verification failed" <+: (errorResponse error).body := by
  cases error with
  | verification fault =>
      have hText : "Response verification failed: " ++ fault.message =
          "Response verification failed" ++ (": " ++ fault.message) := by
        rw [← String.append_assoc]
        rfl
      rw [errorResponse, hText]
      exact prefix_ofText_append _ _
  | rootKeyUnavailable =>
      exact prefix_ofText_append "Response verification failed" ": the root key is not available"
  | call error => exact absurd h (by simp [Error.kind])
  | status => exact absurd h (by simp [Error.kind])
  | http fault => exact absurd h (by simp [Error.kind])
  | requestBody text => exact absurd h (by simp [Error.kind])

/--
**The response to a failure agrees with its class.** For every failure, with any wording in it:

* the response has no headers, and its status is no success;
* the status is 500 for failed verifications and failures of the gateway, and for no others;
* it is 400 for requests that cannot be read, and for no others;
* it is 404 for calls that were rejected, with a certificate or without one, because there is no
  such destination, and for no others; then the body is the message of the rejection;
* it is 507 for calls with too long a reply, and for no others;
* it is 502 for all other failures on the way to the canister, and for no others;
* the body says so where a response was not verified, be it for want of a root key.
-/
theorem errorResponse_agrees_with_kind (error : Error) :
    let response := errorResponse error
    let code := response.status.code
    response.headers.toList = [] ∧ ¬ (200 ≤ code ∧ code ≤ 299) ∧
      (code = 500 ↔ error.kind = .verification ∨ error.kind = .internal) ∧
      (code = 400 ↔ error.kind = .mapping) ∧
      (code = 404 ↔ ∃ certified reject, error = .call (.rejected certified reject) ∧
        reject.code = .destinationInvalid) ∧
      (code = 507 ↔ error = .call .replyTooLarge) ∧
      (code = 502 ↔ error.kind = .transport ∧ error ≠ .call .replyTooLarge ∧
        ¬ ∃ certified reject, error = .call (.rejected certified reject) ∧
          reject.code = .destinationInvalid) ∧
      (∀ certified reject, error = .call (.rejected certified reject) →
        reject.code = .destinationInvalid → response.body = Bytes.ofText reject.message) ∧
      (error.kind = .verification ∨ error = .rootKeyUnavailable →
        Bytes.ofText "Response verification failed" <+: response.body) := by
  intro response code
  have hMissing : code = 404 ↔ _ := errorResponse_notFound_iff error
  have hLarge : code = 507 ↔ _ := errorResponse_insufficientStorage_iff error
  have hHeaders : response.headers.toList = [] := by
    rw [show response.headers = .empty from errorResponse_headers error]
    rfl
  have hBody : ∀ certified reject, error = .call (.rejected certified reject) →
      reject.code = .destinationInvalid → response.body = Bytes.ofText reject.message := by
    intro certified reject hSame hCode
    have hReject : NoDestination (.rejected certified reject) reject.message :=
      ⟨certified, reject, rfl, hCode, rfl⟩
    have hResponse : response = .ofText .notFound reject.message := by
      rw [← callErrorResponse_of_noDestination hReject]
      exact congrArg errorResponse hSame
    rw [hResponse]
    rfl
  -- the other statuses are told by the class, which has one of its own or one of three
  have hClass : (error.kind = .transport ∧ (code = 404 ∨ code = 507 ∨ code = 502)) ∨
      (error.kind = .verification ∧ code = 500) ∨ (error.kind = .mapping ∧ code = 400) ∨
      (error.kind = .internal ∧ code = 500) := errorResponse_code error
  clear_value code
  have hCodes : (code = 500 ↔ error.kind = .verification ∨ error.kind = .internal) ∧
      (code = 400 ↔ error.kind = .mapping) ∧
      (code = 502 ↔ error.kind = .transport ∧ ¬ code = 507 ∧ ¬ code = 404) := by
    rcases hClass with ⟨hKind, hCode⟩ | ⟨hKind, hCode⟩ | ⟨hKind, hCode⟩ | ⟨hKind, hCode⟩
    · simp only [hKind, reduceCtorEq, true_and, or_false, iff_false]
      omega
    all_goals simp [hKind, hCode]
  obtain ⟨hFailed, hRefused, hOther⟩ := hCodes
  rw [hMissing, hLarge] at hOther
  refine ⟨hHeaders, ?_, hFailed, hRefused, hMissing, hLarge, hOther, hBody,
    prefix_errorResponse_body⟩
  omega

/-- A destination that does not exist, and a key that cannot be had. -/
theorem errorResponse_agrees_with_kind_of_rejection :
    let missing := errorResponse
      (.call (.rejected false ⟨.destinationInvalid, "no such canister", some "IC0301"⟩))
    missing.status.code = 404 ∧ missing.body = Bytes.ofText "no such canister" ∧
      Bytes.ofText "Response verification failed" <+: (errorResponse .rootKeyUnavailable).body := by
  intro missing
  obtain ⟨-, -, -, -, hMissing, -, -, hBody, -⟩ := errorResponse_agrees_with_kind
    (.call (.rejected false ⟨.destinationInvalid, "no such canister", some "IC0301"⟩))
  obtain ⟨-, -, -, -, -, -, -, -, hUnverified⟩ := errorResponse_agrees_with_kind .rootKeyUnavailable
  exact ⟨hMissing.mpr ⟨_, _, rfl, rfl⟩, hBody _ _ rfl rfl, hUnverified (.inr rfl)⟩

end CanisterGateway.Gateway
