import CanisterGateway.Proofs.Failure
import CanisterGateway.Server.Service

/-!
# The server and the frames of a body

However a body is cut into frames, only two things about the frames count: the first failure among
them, and the data in them where there is none. A failure ends the request at once. Otherwise the
server does what the gateway does with the whole body, and with a verification.

So whatever the server answers is one of three things: what it says about a body that cannot be
read, the error response of the first step that failed, or a response with a provenance. As
verifications are not skipped, that is the answer to an update call, or what the verifier vouches
for.

## Main results

* `collect_eq` — the first failure, or all data.
* `collect_removeTrailers` — trailers are not looked at.
* `Course.response_cases` — where the response to a request that is verified comes from.
* `serveFrames_contract` — the server's answer to a request in any frames.
-/

namespace CanisterGateway.Http.Frame

/-! ## What counts of the frames -/

/-- Why reading failed, if the frame says so. -/
def reason? : Frame → Option String
  | failure reason => some reason
  | _ => none

/-- The reason of the first failure among frames. -/
def firstFailure? (frames : List Frame) : Option String :=
  frames.findSome? reason?

/-- Whether a frame holds trailers. -/
def isTrailers : Frame → Bool
  | trailers _ => true
  | _ => false

/-- The frames without the trailers among them. -/
def removeTrailers (frames : List Frame) : List Frame :=
  frames.filter (!isTrailers ·)

/-- Frames are collected to the reason of the first failure, or else to all data in order. -/
theorem collect_eq (frames : List Frame) :
    collect frames =
      match firstFailure? frames with
      | some reason => .error reason
      | none => .ok (frames.flatMap content) := by
  induction frames with
  | nil => rfl
  | cons frame rest ih =>
      cases frame with
      | failure reason => rfl
      | trailers fields => exact ih
      | data bytes =>
          have hFirst : firstFailure? (data bytes :: rest) = firstFailure? rest := rfl
          rw [collect, ih, hFirst, List.flatMap_cons]
          cases firstFailure? rest with
          | some reason => rfl
          | none => rfl

theorem collect_of_firstFailure {frames : List Frame} {reason : String}
    (h : firstFailure? frames = some reason) : collect frames = .error reason := by
  rw [collect_eq, h]

theorem collect_of_no_firstFailure {frames : List Frame} (h : firstFailure? frames = none) :
    collect frames = .ok (frames.flatMap content) := by
  rw [collect_eq, h]

/-- Trailers have no influence, whether something fails or not. -/
theorem collect_removeTrailers (frames : List Frame) :
    collect (removeTrailers frames) = collect frames := by
  induction frames with
  | nil => rfl
  | cons frame rest ih =>
      cases frame with
      | failure reason => rfl
      | trailers fields => exact ih
      | data bytes => exact congrArg (Except.map (bytes ++ ·)) ih

end CanisterGateway.Http.Frame

namespace CanisterGateway.Gateway

variable {endpoint : Endpoint} {context : Context} {answer : KeyResult} {visit : Visit}
  {fetched : Fetched}

/-! ## Where responses come from -/

/-- A response with a provenance is the answer to an update call or was verified, unless nobody
wanted a verification. -/
theorem Provenance.trusted {response : Canister.Response} {upgraded : Bool}
    {version? : Option UInt16}
    (h : Provenance endpoint context answer visit response upgraded version?)
    (hWanted : visit.skipVerification = false) : upgraded = true ∨ version?.isSome := by
  cases h with
  | update hQuery hUpgrade hUpdate => exact .inl rfl
  | unverified hQuery hSettled hSkip =>
      rw [hWanted] at hSkip
      cases hSkip
  | verified hNeeds hKey hVerdict hVouched => exact .inr rfl

/-- The response to a request that is verified is that of an error, which is the one of the first
step that failed, or it is the outbound form of a response with a provenance. -/
theorem Course.response_cases (hCourse : Course endpoint context answer visit fetched)
    (hWanted : visit.skipVerification = false) {given : Answer}
    (hAnswer : fetched.answer? = some given) :
    (∃ stage error, FailsFirst endpoint context answer visit stage error ∧
      given.response = errorResponse error) ∨
    ∃ response upgraded version? outbound,
      Provenance endpoint context answer visit response upgraded version? ∧
      (upgraded = true ∨ version?.isSome) ∧ Outbound.ofCanister response = .ok outbound ∧
      given.response = outbound.response := by
  rcases Fetched.answer?_cases hAnswer with ⟨error, hFails, rfl⟩ | ⟨response, outbound, hResult,
    hOutbound, rfl⟩
  · left
    obtain ⟨stage, hFirst⟩ := hCourse.failsFirst hFails
    exact ⟨stage, error, hFirst, rfl⟩
  · right
    have hProvenance := hCourse.provenance hResult
    have hTrusted := hProvenance.trusted hWanted
    exact ⟨response, _, _, outbound, hProvenance, hTrusted, hOutbound, rfl⟩

end CanisterGateway.Gateway

namespace CanisterGateway.Server

open Gateway Http

variable {α κ ν : Type}

/-! ## The server -/

/-- A body that cannot be read ends the request, and nobody is asked anything. -/
theorem serveFrames_of_failure {frames : List Frame} {reason : String}
    (h : Frame.firstFailure? frames = some reason) (gateway : Installation α κ ν)
    (surroundings : Surroundings α κ ν) (canister : Principal) (head : Http.Request) (now : Nat) :
    serveFrames gateway surroundings canister head frames now =
      ⟨some (unreadableResponse reason), [], gateway⟩ := by
  unfold serveFrames
  rw [Frame.collect_of_firstFailure h]

/-- A body that can be read is served as a whole. -/
theorem serveFrames_of_no_failure {frames : List Frame} (h : Frame.firstFailure? frames = none)
    (gateway : Installation α κ ν) (surroundings : Surroundings α κ ν) (canister : Principal)
    (head : Http.Request) (now : Nat) :
    let served := gateway.serve surroundings
      ⟨{ head with body := frames.flatMap Frame.content }, canister, false, now⟩
    serveFrames gateway surroundings canister head frames now =
      ⟨served.1.answer?.map Answer.response, served.1.calls, served.2⟩ := by
  intro served
  unfold serveFrames
  rw [Frame.collect_of_no_firstFailure h]

/--
**The server's contract, whatever the frames are.** A request comes as a head and any frames.

* If reading fails, the answer has status 400, no headers, and as its body the wording of the error
  with the reason of the first failure. No call of any kind is made, and the gateway stays as it is.
* Otherwise the answer, the calls and the gateway afterwards are those of a request through the
  gateway, which is verified, and has the head and the data of all frames in order.
* Frames that can be read and hold the same data are served alike, and trailers may be left out.
* An answer to a body that could be read is the error response of the first step that failed, or has
  a provenance: it is that of an update call, or what the verifier accepted of the query's answer.
-/
theorem serveFrames_contract (gateway : Installation α κ ν) (surroundings : Surroundings α κ ν)
    (canister : Principal) (head : Http.Request) (frames : List Frame) (now : Nat) :
    let service := serveFrames gateway surroundings canister head frames now
    let visit : Visit :=
      ⟨{ head with body := frames.flatMap Frame.content }, canister, false, now⟩
    let served := gateway.serve surroundings visit
    (∀ reason, Frame.firstFailure? frames = some reason →
      (∃ response, service.response? = some response ∧ response.status.code = 400 ∧
        response.headers = .empty ∧
        response.body = Bytes.ofText (Error.requestBody reason).message) ∧
      service.calls = [] ∧ service.gateway = gateway) ∧
    (Frame.firstFailure? frames = none →
      service.response? = served.1.answer?.map Answer.response ∧
      service.calls = served.1.calls ∧ service.gateway = served.2) ∧
    (∀ other, Frame.firstFailure? frames = none → Frame.firstFailure? other = none →
      other.flatMap Frame.content = frames.flatMap Frame.content →
      serveFrames gateway surroundings canister head other now = service) ∧
    serveFrames gateway surroundings canister head (Frame.removeTrailers frames) now = service ∧
    (∀ response, Frame.firstFailure? frames = none → service.response? = some response →
      let endpoint := gateway.endpoint surroundings
      let context := gateway.context surroundings
      let answer := (gateway.keyAnswer surroundings).1
      (∃ stage error, FailsFirst endpoint context answer visit stage error ∧
        response = errorResponse error) ∨
      ∃ origin upgraded version? outbound,
        Provenance endpoint context answer visit origin upgraded version? ∧
        (upgraded = true ∨ version?.isSome) ∧ Outbound.ofCanister origin = .ok outbound ∧
        response = outbound.response) := by
  intro service visit served
  refine ⟨?_, ?_, ?_, ?_, ?_⟩
  · intro reason hFailure
    have hService : service = ⟨some (unreadableResponse reason), [], gateway⟩ :=
      serveFrames_of_failure hFailure gateway surroundings canister head now
    rw [hService]
    exact ⟨⟨_, rfl, rfl, rfl, rfl⟩, rfl, rfl⟩
  · intro hReadable
    have hService : service = ⟨served.1.answer?.map Answer.response, served.1.calls, served.2⟩ :=
      serveFrames_of_no_failure hReadable gateway surroundings canister head now
    rw [hService]
    exact ⟨rfl, rfl, rfl⟩
  · intro other hReadable hOther hData
    apply serveFrames_of_collect
    rw [Frame.collect_of_no_firstFailure hOther, Frame.collect_of_no_firstFailure hReadable, hData]
  · apply serveFrames_of_collect
    exact Frame.collect_removeTrailers frames
  · intro response hReadable hResponse endpoint context answer
    have hService : service = ⟨served.1.answer?.map Answer.response, served.1.calls, served.2⟩ :=
      serveFrames_of_no_failure hReadable gateway surroundings canister head now
    rw [hService] at hResponse
    obtain ⟨given, hGiven, rfl⟩ := Option.map_eq_some_iff.mp hResponse
    obtain ⟨fetched, hCourse⟩ := exists_course endpoint context answer visit
    have hServed : served.1 = ⟨fetched.answer?, fetched.calls, fetched.anchor⟩ := hCourse.serve_eq
    rw [hServed] at hGiven
    exact hCourse.response_cases rfl hGiven

/-- A gateway with a client, a root key and a verifier of its own. -/
def ownGateway : Installation Unit Unit Unit :=
  .build (.ofList [.client (), .rootKey [1], .verifier ()]) fun _ => .mainnet

/-- A canister that answers every query with a page, and a verifier that wants to see a body of
three bytes. -/
def ownSurroundings : Surroundings Unit Unit Unit where
  client := fun _ => .constant (.ok ⟨200, [], [112], none, none⟩) (.error .rootKeyUnavailable)
  network := fun _ => ⟨fun _ _ _ => .failure .timeout, fun _ _ _ => .failure .timeout,
    .error .timeout⟩
  verifier := fun _ request _ _ _ =>
    if request.body = [1, 2, 3] then .ok ⟨2, none⟩
    else .error (.fault (.verification .noCertification))

/-- A body in three frames and in one; one that cannot be read after its first byte; and one that
the verifier does not accept. -/
theorem serveFrames_contract_of_uploads :
    let head : Http.Request := (Visit.frontPage false).request
    let canister := (Visit.frontPage false).canister
    let serveAll := fun frames => serveFrames ownGateway ownSurroundings canister head frames 0
    serveAll [.data [1], .trailers [], .data [], .data [2, 3]] = serveAll [.data [1, 2, 3]] ∧
    (serveAll [.data [1], .failure "lost", .data [2]]).calls = [] ∧
    (∃ response, (serveAll [.data [1], .failure "lost", .data [2]]).response? = some response ∧
      response.body = Bytes.ofText "Failed to read the request body: \"lost\"") ∧
    (serveAll [.data [4]]).response? =
      some (errorResponse (.verification .noCertification)) := by
  intro head canister serveAll
  have hContract := fun frames =>
    serveFrames_contract ownGateway ownSurroundings canister head frames 0
  have hCut := (hContract [.data [1], .failure "lost", .data [2]]).1 "lost" rfl
  obtain ⟨⟨response, hResponse, -, -, hBody⟩, hCalls, -⟩ := hCut
  refine ⟨?_, hCalls, ⟨response, hResponse, hBody⟩, ?_⟩
  · exact (hContract [.data [1, 2, 3]]).2.2.1 _ rfl rfl rfl
  · rw [((hContract [.data [4]]).2.1 rfl).1]
    rfl

end CanisterGateway.Server
