import CanisterGateway.Gateway.Exchange

/-!
# The courses of a request

A request through the gateway takes one of six courses, and the answers it meets on the way decide
which one: that of the query, that about the root key, and that of the verifier. `Course` lists
them once, each with everything that `fetch` makes of it. Whatever else is said about requests is a
case analysis over the courses, so `fetch` is opened in this module only.

A fetched response becomes an answer in one of two ways: it is served, or a failure takes its
place.

## Main results

* `course_iff` — a course is taken exactly if it ends with what `fetch` yields.
* `Fetched.answer?_of_ok`, `Fetched.answer?_of_fault` — the answer to a request whose response was
  fetched, and to one that failed.
-/

namespace CanisterGateway.Gateway

/-! ## What a request asks for -/

/-- The query that a request starts with. -/
def Visit.query (visit : Visit) (version : UInt16) : Canister.Request :=
  .ofHttp visit.request version

/-- The canister answered the query with a response that must not be served before it is
verified. -/
structure NeedsVerdict (endpoint : Endpoint) (version : UInt16) (visit : Visit)
    (response : Canister.Response) : Prop where
  answered : endpoint.query visit.canister (visit.query version) = .ok response
  settled : response.upgrade? ≠ some true
  wanted : visit.skipVerification = false

theorem needsVerdict_iff {endpoint : Endpoint} {version : UInt16} {visit : Visit}
    {response : Canister.Response} :
    NeedsVerdict endpoint version visit response ↔
      endpoint.query visit.canister (visit.query version) = .ok response ∧
        response.upgrade? ≠ some true ∧ visit.skipVerification = false :=
  ⟨fun h => ⟨h.answered, h.settled, h.wanted⟩,
    fun ⟨hAnswered, hSettled, hWanted⟩ => ⟨hAnswered, hSettled, hWanted⟩⟩

theorem isUpgrade_iff {response : Canister.Response} :
    response.isUpgrade = true ↔ response.upgrade? = some true := by
  simp [Canister.Response.isUpgrade]

/-! ## The six courses -/

/--
The courses a request can take, and what each of them fetches.

The hypotheses of a course are the answers that lead to it. They exclude one another, and together
they leave nothing out.
-/
inductive Course (endpoint : Endpoint) (context : Context) (answer : KeyResult) (visit : Visit) :
    Fetched → Prop
  /-- The query has no answer. -/
  | unanswered {error : Error}
      (hQuery : endpoint.query visit.canister (visit.query context.certificateVersion)
        = .error error) :
      Course endpoint context answer visit
        ⟨.error (.fault error), false, none,
          [.query visit.canister (visit.query context.certificateVersion)], context.anchor⟩
  /-- The canister asks for an upgrade, and the update call decides. -/
  | escalated {provisional : Canister.Response}
      (hQuery : endpoint.query visit.canister (visit.query context.certificateVersion)
        = .ok provisional)
      (hUpgrade : provisional.upgrade? = some true) :
      Course endpoint context answer visit
        ⟨failed (endpoint.update visit.canister
            (visit.query context.certificateVersion).forUpdate), true, none,
          [.query visit.canister (visit.query context.certificateVersion),
            .update visit.canister (visit.query context.certificateVersion).forUpdate],
          context.anchor⟩
  /-- The caller does not want a verification. -/
  | skipped {response : Canister.Response}
      (hQuery : endpoint.query visit.canister (visit.query context.certificateVersion)
        = .ok response)
      (hSettled : response.upgrade? ≠ some true)
      (hSkip : visit.skipVerification = true) :
      Course endpoint context answer visit
        ⟨.ok response, false, none,
          [.query visit.canister (visit.query context.certificateVersion)], context.anchor⟩
  /-- There is no root key to verify with. -/
  | keyless {response : Canister.Response} {error : Error}
      (hNeeds : NeedsVerdict endpoint context.certificateVersion visit response)
      (hKey : (context.anchor.resolve answer).result = .error error) :
      Course endpoint context answer visit
        ⟨.error (.fault error), false, none,
          [.query visit.canister (visit.query context.certificateVersion),
            .rootKey (context.anchor.resolve answer).asked],
          (context.anchor.resolve answer).anchor⟩
  /-- The verifier does not accept the response. -/
  | rejected {response : Canister.Response} {key : Bytes} {stop : Certification.Stop Error}
      (hNeeds : NeedsVerdict endpoint context.certificateVersion visit response)
      (hKey : (context.anchor.resolve answer).result = .ok key)
      (hVerdict : context.verifier (visit.query context.certificateVersion) response
        (trustBounds visit.canister key) visit.now = .error stop) :
      Course endpoint context answer visit
        ⟨.error stop, false, none,
          [.query visit.canister (visit.query context.certificateVersion),
            .rootKey (context.anchor.resolve answer).asked,
            .verify (visit.query context.certificateVersion) response
              (trustBounds visit.canister key)],
          (context.anchor.resolve answer).anchor⟩
  /-- The verifier accepts the response. -/
  | accepted {response : Canister.Response} {key : Bytes}
      {acceptance : Certification.Acceptance}
      (hNeeds : NeedsVerdict endpoint context.certificateVersion visit response)
      (hKey : (context.anchor.resolve answer).result = .ok key)
      (hVerdict : context.verifier (visit.query context.certificateVersion) response
        (trustBounds visit.canister key) visit.now = .ok acceptance) :
      Course endpoint context answer visit
        ⟨.ok (narrow response acceptance), false, some acceptance.version,
          [.query visit.canister (visit.query context.certificateVersion),
            .rootKey (context.anchor.resolve answer).asked,
            .verify (visit.query context.certificateVersion) response
              (trustBounds visit.canister key)],
          (context.anchor.resolve answer).anchor⟩

variable {endpoint : Endpoint} {context : Context} {answer : KeyResult} {visit : Visit}
  {fetched : Fetched}

/-- Without a root key there is no verdict, and the verifier is not asked. -/
theorem validate_of_keyless {canister : Principal} {request : Canister.Request}
    {response : Canister.Response} {now : Nat} {error : Error}
    (hKey : (context.anchor.resolve answer).result = .error error) :
    context.validate answer canister request response now =
      ⟨⟨.error (.fault error), (context.anchor.resolve answer).anchor⟩,
        [.rootKey (context.anchor.resolve answer).asked]⟩ := by
  simp only [Context.validate, Context.callRootKey, Traced.bind_eq, Traced.pure_eq, hKey,
    List.append_nil]

/-- With a root key the verdict is that of the verifier. -/
theorem validate_of_key {canister : Principal} {request : Canister.Request}
    {response : Canister.Response} {now : Nat} {key : Bytes}
    (hKey : (context.anchor.resolve answer).result = .ok key) :
    context.validate answer canister request response now =
      ⟨⟨context.verifier request response (trustBounds canister key) now,
          (context.anchor.resolve answer).anchor⟩,
        [.rootKey (context.anchor.resolve answer).asked,
          .verify request response (trustBounds canister key)]⟩ := by
  simp only [Context.validate, Context.callRootKey, Context.callVerifier, Traced.bind_eq,
    Traced.pure_eq, hKey]
  rfl

/-- Up to the verification: a response that needs a verdict gets the one of `validate`. -/
private theorem fetch_of_validate {response : Canister.Response} {judgement : Judgement}
    {calls : List Call}
    (hNeeds : NeedsVerdict endpoint context.certificateVersion visit response)
    (hValidate : context.validate answer visit.canister
      (visit.query context.certificateVersion) response visit.now = ⟨judgement, calls⟩) :
    fetch endpoint context answer visit =
      match judgement.verdict with
      | .error stop =>
        ⟨.error stop, false, none,
          .query visit.canister (visit.query context.certificateVersion) :: calls,
          judgement.anchor⟩
      | .ok acceptance =>
        ⟨.ok (narrow response acceptance), false, some acceptance.version,
          .query visit.canister (visit.query context.certificateVersion) :: calls,
          judgement.anchor⟩ := by
  have hQuery := hNeeds.answered
  have hSettled := mt isUpgrade_iff.mp hNeeds.settled
  rw [Visit.query] at hQuery hValidate ⊢
  simp only [fetch, Traced.recorded, Endpoint.callQuery, Traced.bind_eq, Traced.pure_eq, hQuery,
    hSettled, hNeeds.wanted, hValidate]
  cases judgement.verdict with
  | error stop => simp
  | ok acceptance => simp

/-- A course ends with what `fetch` yields. -/
theorem Course.eq_fetch (h : Course endpoint context answer visit fetched) :
    fetched = fetch endpoint context answer visit := by
  cases h with
  | unanswered hQuery =>
      rw [Visit.query] at hQuery ⊢
      simp only [fetch, Traced.recorded, Endpoint.callQuery, Traced.bind_eq, Traced.pure_eq,
        hQuery]
      rfl
  | escalated hQuery hUpgrade =>
      have hAsks := isUpgrade_iff.mpr hUpgrade
      rw [Visit.query] at hQuery ⊢
      simp only [fetch, Traced.recorded, Endpoint.callQuery, Endpoint.callUpdate, Traced.bind_eq,
        Traced.pure_eq, hQuery, hAsks, if_true]
      rfl
  | skipped hQuery hSettled hSkip =>
      have hStays := mt isUpgrade_iff.mp hSettled
      rw [Visit.query] at hQuery ⊢
      simp only [fetch, Traced.recorded, Endpoint.callQuery, Traced.bind_eq, Traced.pure_eq,
        hQuery, hStays, hSkip, if_true]
      rfl
  | keyless hNeeds hKey => rw [fetch_of_validate hNeeds (validate_of_keyless hKey)]
  | rejected hNeeds hKey hVerdict => rw [fetch_of_validate hNeeds (validate_of_key hKey), hVerdict]
  | accepted hNeeds hKey hVerdict => rw [fetch_of_validate hNeeds (validate_of_key hKey), hVerdict]

/-- Some course is taken: the answers are distinguished in the order in which they are met. -/
theorem exists_course (endpoint : Endpoint) (context : Context) (answer : KeyResult)
    (visit : Visit) : ∃ fetched, Course endpoint context answer visit fetched := by
  cases hQuery : endpoint.query visit.canister (visit.query context.certificateVersion) with
  | error error => exact ⟨_, .unanswered hQuery⟩
  | ok response =>
      by_cases hUpgrade : response.upgrade? = some true
      · exact ⟨_, .escalated hQuery hUpgrade⟩
      · cases hSkip : visit.skipVerification with
        | true => exact ⟨_, .skipped hQuery hUpgrade hSkip⟩
        | false =>
            have hNeeds : NeedsVerdict endpoint context.certificateVersion visit response :=
              ⟨hQuery, hUpgrade, hSkip⟩
            cases hKey : (context.anchor.resolve answer).result with
            | error error => exact ⟨_, .keyless hNeeds hKey⟩
            | ok key =>
                cases hVerdict : context.verifier (visit.query context.certificateVersion)
                    response (trustBounds visit.canister key) visit.now with
                | error stop => exact ⟨_, .rejected hNeeds hKey hVerdict⟩
                | ok acceptance => exact ⟨_, .accepted hNeeds hKey hVerdict⟩

theorem course_iff :
    Course endpoint context answer visit fetched ↔
      fetched = fetch endpoint context answer visit := by
  constructor
  · exact Course.eq_fetch
  · intro h
    obtain ⟨other, hOther⟩ := exists_course endpoint context answer visit
    rw [h, ← hOther.eq_fetch]
    exact hOther

/-- The exchange that belongs to a course. -/
theorem Course.serve_eq (h : Course endpoint context answer visit fetched) :
    serve endpoint context answer visit = ⟨fetched.answer?, fetched.calls, fetched.anchor⟩ := by
  rw [serve, h.eq_fetch]

/-! ## From a fetched response to an answer -/

/-- The answer that serves an outbound response. -/
def Answer.served (outbound : Outbound) (upgraded : Bool) (version? : Option UInt16) : Answer where
  response := outbound.response
  streaming? := outbound.streaming?
  metadata := ⟨upgraded, version?, none⟩

/-- The answer that takes the place of a response. -/
def Answer.failure (error : Error) (upgraded : Bool) : Answer where
  response := errorResponse error
  streaming? := none
  metadata := ⟨upgraded, none, some error⟩

/-- The answer that a canister's response becomes. -/
def Answer.ofCanister (response : Canister.Response) (upgraded : Bool)
    (version? : Option UInt16) : Answer :=
  match Outbound.ofCanister response with
  | .ok outbound => .served outbound upgraded version?
  | .error error => .failure error upgraded

theorem Fetched.answer?_of_ok {response : Canister.Response} (h : fetched.result = .ok response) :
    fetched.answer? = some (.ofCanister response fetched.upgraded fetched.version?) := by
  unfold Fetched.answer? Answer.ofCanister
  rw [h, Except.bind]
  cases Outbound.ofCanister response <;> rfl

theorem Fetched.answer?_of_fault {error : Error} (h : fetched.result = .error (.fault error)) :
    fetched.answer? = some (.failure error fetched.upgraded) := by
  unfold Fetched.answer?
  rw [h]
  rfl

/-- A course that ends in a failure gives the request its answer. -/
theorem Course.answer?_of_fault (hCourse : Course endpoint context answer visit fetched)
    {error : Error} (h : fetched.result = .error (.fault error)) :
    (serve endpoint context answer visit).answer? = some (.failure error fetched.upgraded) := by
  rw [hCourse.serve_eq]
  exact Fetched.answer?_of_fault h

theorem Fetched.answer?_of_aborted (h : fetched.result = .error .aborted) :
    fetched.answer? = none := by
  unfold Fetched.answer?
  rw [h]
  rfl

/-- The answer does not depend on the calls, nor on what is known of the root key. -/
theorem Fetched.answer?_congr {other : Fetched} (hResult : other.result = fetched.result)
    (hUpgraded : other.upgraded = fetched.upgraded) (hVersion : other.version? = fetched.version?) :
    other.answer? = fetched.answer? := by
  unfold Fetched.answer?
  rw [hResult, hUpgraded, hVersion]

/-- An answer without an error serves what was fetched. -/
theorem Fetched.answer?_ok_iff {served : Answer} :
    (fetched.answer? = some served ∧ served.metadata.error? = none) ↔
      ∃ response outbound, fetched.result = .ok response ∧
        Outbound.ofCanister response = .ok outbound ∧
        served = .served outbound fetched.upgraded fetched.version? := by
  constructor
  · rintro ⟨hAnswer, hError⟩
    cases hResult : fetched.result with
    | error stop =>
        cases stop with
        | fault error =>
            rw [Fetched.answer?_of_fault hResult, Option.some.injEq] at hAnswer
            rw [← hAnswer] at hError
            cases hError
        | aborted =>
            rw [Fetched.answer?_of_aborted hResult] at hAnswer
            cases hAnswer
    | ok response =>
        rw [Fetched.answer?_of_ok hResult, Option.some.injEq, Answer.ofCanister] at hAnswer
        cases hOutbound : Outbound.ofCanister response with
        | error error =>
            rw [hOutbound] at hAnswer
            rw [← hAnswer] at hError
            cases hError
        | ok outbound =>
            rw [hOutbound] at hAnswer
            exact ⟨response, outbound, rfl, hOutbound, hAnswer.symm⟩
  · rintro ⟨response, outbound, hResult, hOutbound, rfl⟩
    rw [Fetched.answer?_of_ok hResult, Answer.ofCanister, hOutbound]
    exact ⟨rfl, rfl⟩

/-- Of a canister's response, the client gets to see status code, headers and body; the streaming
strategy goes beside them, and the upgrade flag nowhere. -/
theorem ofCanister_eq_map {first second : Canister.Response}
    (hStatus : second.statusCode = first.statusCode) (hHeaders : second.headers = first.headers)
    (hBody : second.body = first.body) :
    Outbound.ofCanister second =
      (Outbound.ofCanister first).map
        fun outbound => { outbound with streaming? := second.streaming? } := by
  unfold Outbound.ofCanister
  rw [hStatus, hHeaders, hBody]
  cases Http.Status.ofNat? first.statusCode.toNat with
  | none => rfl
  | some status =>
      cases Http.HeaderMap.empty.addFields (first.headers.map rawField) <;> rfl

/-- The streaming strategy beside an answer: that of the canister's response if it is served, and
none otherwise. -/
def Metadata.passed (metadata : Metadata) (streaming? : Option Canister.Streaming) :
    Option Canister.Streaming :=
  if metadata.error? = none then streaming? else none

/-- Responses that agree in status code, headers and body become answers that agree in all but the
streaming strategy. -/
theorem Answer.ofCanister_of_parts_eq {first second : Canister.Response}
    (hStatus : second.statusCode = first.statusCode) (hHeaders : second.headers = first.headers)
    (hBody : second.body = first.body) (upgraded : Bool) (version? : Option UInt16) :
    ∃ response metadata,
      Answer.ofCanister first upgraded version? =
        ⟨response, metadata.passed first.streaming?, metadata⟩ ∧
      Answer.ofCanister second upgraded version? =
        ⟨response, metadata.passed second.streaming?, metadata⟩ := by
  have hFirst : Outbound.ofCanister first =
      (Outbound.ofCanister first).map
        fun outbound => { outbound with streaming? := first.streaming? } :=
    ofCanister_eq_map rfl rfl rfl
  unfold Answer.ofCanister
  rw [ofCanister_eq_map hStatus hHeaders hBody]
  cases hOutbound : Outbound.ofCanister first with
  | error error => exact ⟨errorResponse error, ⟨upgraded, none, some error⟩, rfl, rfl⟩
  | ok outbound =>
      rw [hOutbound] at hFirst
      have hStreaming : outbound.streaming? = first.streaming? := by
        simpa [Except.map] using congrArg Outbound.streaming? (Except.ok.inj hFirst)
      refine ⟨outbound.response, ⟨upgraded, version?, none⟩, ?_, rfl⟩
      simp only [Answer.served, hStreaming]
      rfl

/-! ## Sample requests -/

/-- Who answers all queries alike, and all update calls alike. -/
def Endpoint.constant (query update : Except Error Canister.Response) : Endpoint where
  query := fun _ _ => query
  update := fun _ _ => update

/-- A request for the front page of the canister whose name is empty. -/
def Visit.frontPage (skipVerification : Bool) : Visit where
  request := ⟨.get, .origin ⟨"/", none⟩, .empty, []⟩
  canister := ⟨[], by decide⟩
  skipVerification := skipVerification
  now := 0

end CanisterGateway.Gateway
