import CanisterGateway.Proofs.Provenance

/-!
# What a failure leaves behind

A request takes its steps in a fixed order: the query; then the update call, or the root key and
after it the verifier, or neither; then the outbound form of the response. The first step that
fails decides the answer, and nothing of the steps before it gets into that answer but the mark of
the update call.

`FailsFirst` says which step that is, by the answers from outside alone. The metadata are then
coherent: the mark of the update call tells that the call was made, and a version of certification
tells that the response beside it is the one that the verifier accepted.

## Main results

* `FailsFirst.course`, `Course.failsFirst` — the first failing step ends the course, and behind
  every course that fails there is such a step.
* `Course.upgraded_iff`, `Course.version?_iff` — what the two marks stand for.
* `serve_failure_coherent` — both together, for every run.
-/

namespace CanisterGateway.Gateway

/-! ## The first step that fails -/

/-- The steps of a request that may fail. -/
inductive Stage
  | query
  | update
  | rootKey
  | verification
  | mapping
  deriving DecidableEq

/-- The first step of a request that fails, and its error. The hypotheses in front of a failure are
the successes of the steps before it. -/
inductive FailsFirst (endpoint : Endpoint) (context : Context) (answer : KeyResult)
    (visit : Visit) : Stage → Error → Prop
  | query {error : Error}
      (hQuery : endpoint.query visit.canister (visit.query context.certificateVersion)
        = .error error) :
      FailsFirst endpoint context answer visit .query error
  | update {provisional : Canister.Response} {error : Error}
      (hQuery : endpoint.query visit.canister (visit.query context.certificateVersion)
        = .ok provisional)
      (hUpgrade : provisional.upgrade? = some true)
      (hUpdate : endpoint.update visit.canister
        (visit.query context.certificateVersion).forUpdate = .error error) :
      FailsFirst endpoint context answer visit .update error
  | rootKey {response : Canister.Response} {error : Error}
      (hNeeds : NeedsVerdict endpoint context.certificateVersion visit response)
      (hKey : (context.anchor.resolve answer).result = .error error) :
      FailsFirst endpoint context answer visit .rootKey error
  | verification {response : Canister.Response} {key : Bytes} {error : Error}
      (hNeeds : NeedsVerdict endpoint context.certificateVersion visit response)
      (hKey : (context.anchor.resolve answer).result = .ok key)
      (hVerdict : context.verifier (visit.query context.certificateVersion) response
        (trustBounds visit.canister key) visit.now = .error (.fault error)) :
      FailsFirst endpoint context answer visit .verification error
  /-- A response that may be served has no outbound form. -/
  | mapping {response : Canister.Response} {upgraded : Bool} {version? : Option UInt16}
      {error : Error}
      (hServable : Provenance endpoint context answer visit response upgraded version?)
      (hOutbound : Outbound.ofCanister response = .error error) :
      FailsFirst endpoint context answer visit .mapping error

variable {endpoint : Endpoint} {context : Context} {answer : KeyResult} {visit : Visit}
  {fetched : Fetched}

/-- What was fetched becomes no response of the canister: either there is none, or it has no
outbound form. -/
inductive Fetched.FailsWith (fetched : Fetched) (error : Error) : Prop
  | call (hResult : fetched.result = .error (.fault error))
  | mapping {response : Canister.Response} (hResult : fetched.result = .ok response)
      (hOutbound : Outbound.ofCanister response = .error error)

/-- The first step that fails ends the course. -/
theorem FailsFirst.course {stage : Stage} {error : Error}
    (h : FailsFirst endpoint context answer visit stage error) :
    ∃ fetched, Course endpoint context answer visit fetched ∧ fetched.FailsWith error := by
  cases h with
  | query hQuery => exact ⟨_, .unanswered hQuery, .call rfl⟩
  | update hQuery hUpgrade hUpdate =>
      exact ⟨_, .escalated hQuery hUpgrade, .call (congrArg failed hUpdate)⟩
  | rootKey hNeeds hKey => exact ⟨_, .keyless hNeeds hKey, .call rfl⟩
  | verification hNeeds hKey hVerdict => exact ⟨_, .rejected hNeeds hKey hVerdict, .call rfl⟩
  | mapping hServable hOutbound =>
      obtain ⟨fetched, kept, hCourse, hKept, -, -, hSame⟩ := hServable.course
      exact ⟨fetched, hCourse, .mapping hKept (hSame.trans hOutbound)⟩

/-- A course that fails has a step that failed while all before it succeeded. -/
theorem Course.failsFirst (hCourse : Course endpoint context answer visit fetched)
    {error : Error} (h : fetched.FailsWith error) :
    ∃ stage, FailsFirst endpoint context answer visit stage error := by
  cases h with
  | mapping hResult hOutbound =>
      exact ⟨.mapping, .mapping (hCourse.provenance hResult) hOutbound⟩
  | call hResult =>
      cases hCourse with
      | unanswered hQuery =>
          cases hResult
          exact ⟨.query, .query hQuery⟩
      | escalated hQuery hUpgrade =>
          cases hUpdate : endpoint.update visit.canister
              (visit.query context.certificateVersion).forUpdate with
          | ok committed =>
              rw [hUpdate] at hResult
              cases hResult
          | error failure =>
              rw [hUpdate] at hResult
              cases hResult
              exact ⟨.update, .update hQuery hUpgrade hUpdate⟩
      | skipped hQuery hSettled hSkip => cases hResult
      | keyless hNeeds hKey =>
          cases hResult
          exact ⟨.rootKey, .rootKey hNeeds hKey⟩
      | rejected hNeeds hKey hVerdict =>
          cases hResult
          exact ⟨.verification, .verification hNeeds hKey hVerdict⟩
      | accepted hNeeds hKey hVerdict => cases hResult

/-! ## The two ways to an answer -/

theorem Fetched.answer?_of_failsWith {error : Error} (h : fetched.FailsWith error) :
    fetched.answer? = some (.failure error fetched.upgraded) := by
  cases h with
  | call hResult => exact Fetched.answer?_of_fault hResult
  | mapping hResult hOutbound =>
      rw [Fetched.answer?_of_ok hResult, Answer.ofCanister, hOutbound]

/-- An answer is a failure's or serves a response, and both keep the mark of the update call. -/
theorem Fetched.answer?_cases {given : Answer} (h : fetched.answer? = some given) :
    (∃ error, fetched.FailsWith error ∧ given = .failure error fetched.upgraded) ∨
    ∃ response outbound, fetched.result = .ok response ∧
      Outbound.ofCanister response = .ok outbound ∧
      given = .served outbound fetched.upgraded fetched.version? := by
  cases hError : given.metadata.error? with
  | none => exact .inr (Fetched.answer?_ok_iff.mp ⟨h, hError⟩)
  | some error =>
      left
      cases hResult : fetched.result with
      | error stop =>
          cases stop with
          | aborted =>
              rw [Fetched.answer?_of_aborted hResult] at h
              cases h
          | fault failure =>
              have hFails : fetched.FailsWith failure := .call hResult
              rw [Fetched.answer?_of_failsWith hFails] at h
              exact ⟨failure, hFails, (Option.some.inj h).symm⟩
      | ok response =>
          cases hOutbound : Outbound.ofCanister response with
          | error failure =>
              have hFails : fetched.FailsWith failure := .mapping hResult hOutbound
              rw [Fetched.answer?_of_failsWith hFails] at h
              exact ⟨failure, hFails, (Option.some.inj h).symm⟩
          | ok outbound =>
              rw [Fetched.answer?_of_ok hResult, Answer.ofCanister, hOutbound] at h
              cases h
              cases hError

theorem Fetched.answer?_eq_none_iff :
    fetched.answer? = none ↔ fetched.result = .error .aborted := by
  cases hResult : fetched.result with
  | error stop =>
      cases stop with
      | aborted => simp [Fetched.answer?_of_aborted hResult]
      | fault error => simp [Fetched.answer?_of_fault hResult]
  | ok response => simp [Fetched.answer?_of_ok hResult]

/-- Only a verifier without a verdict ends a course without a result. -/
theorem Course.result_aborted_iff (hCourse : Course endpoint context answer visit fetched) :
    fetched.result = .error .aborted ↔
      ∃ response key, NeedsVerdict endpoint context.certificateVersion visit response ∧
        (context.anchor.resolve answer).result = .ok key ∧
        context.verifier (visit.query context.certificateVersion) response
          (trustBounds visit.canister key) visit.now = .error .aborted := by
  constructor
  · intro h
    cases hCourse with
    | escalated hQuery hUpgrade =>
        cases hUpdate : endpoint.update visit.canister
            (visit.query context.certificateVersion).forUpdate <;>
          rw [hUpdate] at h <;> cases h
    | rejected hNeeds hKey hVerdict =>
        cases h
        exact ⟨_, _, hNeeds, hKey, hVerdict⟩
    | _ => cases h
  · rintro ⟨response, key, hNeeds, hKey, hVerdict⟩
    have hSame := hCourse.eq_fetch.trans (Course.rejected hNeeds hKey hVerdict).eq_fetch.symm
    rw [hSame]

/-! ## The two marks -/

theorem Course.upgraded_iff (hCourse : Course endpoint context answer visit fetched) :
    fetched.upgraded = true ↔ ∃ canister request, Call.update canister request ∈ fetched.calls := by
  cases hCourse with
  | escalated hQuery hUpgrade => exact ⟨fun _ => ⟨_, _, .tail _ (.head _)⟩, fun _ => rfl⟩
  | _ => simp

/-- An answer serves what is left of a response that the verifier accepted with a version. -/
inductive ServesAccepted (endpoint : Endpoint) (context : Context) (answer : KeyResult)
    (visit : Visit) (version : UInt16) (given : Answer) : Prop
  | intro {response : Canister.Response} {key : Bytes} {acceptance : Certification.Acceptance}
      {outbound : Outbound}
      (hNeeds : NeedsVerdict endpoint context.certificateVersion visit response)
      (hKey : (context.anchor.resolve answer).result = .ok key)
      (hVerdict : context.verifier (visit.query context.certificateVersion) response
        (trustBounds visit.canister key) visit.now = .ok acceptance)
      (hVersion : acceptance.version = version)
      (hOutbound : Outbound.ofCanister (narrow response acceptance) = .ok outbound)
      (hResponse : given.response = outbound.response)
      (hStreaming : given.streaming? = outbound.streaming?)

/-- The version in the metadata belongs to the response beside it. -/
theorem Course.version?_iff (hCourse : Course endpoint context answer visit fetched)
    {given : Answer} (hAnswer : fetched.answer? = some given) {version : UInt16} :
    given.metadata.version? = some version ↔
      ServesAccepted endpoint context answer visit version given := by
  constructor
  · intro h
    rcases Fetched.answer?_cases hAnswer with ⟨_, _, rfl⟩ | ⟨response, outbound, hResult,
      hOutbound, rfl⟩
    · cases h
    · cases hCourse with
      | accepted hNeeds hKey hVerdict =>
          cases hResult
          cases h
          exact .intro hNeeds hKey hVerdict rfl hOutbound rfl rfl
      | _ => cases h
  · rintro ⟨hNeeds, hKey, hVerdict, rfl, hOutbound, _, _⟩
    have hSame := hCourse.eq_fetch.trans (Course.accepted hNeeds hKey hVerdict).eq_fetch.symm
    rw [hSame, Fetched.answer?_of_ok rfl, Answer.ofCanister, hOutbound] at hAnswer
    rw [← Option.some.inj hAnswer]
    rfl

/-- A version excludes an update call, and it excludes an error. -/
theorem Course.of_version? (hCourse : Course endpoint context answer visit fetched)
    {given : Answer} (hAnswer : fetched.answer? = some given)
    (h : given.metadata.version?.isSome) :
    given.metadata.upgraded = false ∧ given.metadata.error? = none := by
  rcases Fetched.answer?_cases hAnswer with ⟨_, _, rfl⟩ | ⟨_, _, _, _, rfl⟩
  · cases h
  · cases hCourse with
    | accepted hNeeds hKey hVerdict => exact ⟨rfl, rfl⟩
    | _ => cases h

/--
**Failures are atomic and the metadata coherent.** Of every run:

* if a step fails, the answer is made of the error of the first one that does: its error response,
  no streaming strategy, no version, and the error itself in the metadata;
* there is an answer unless the verifier ends without a verdict, and an error in it is that of the
  first failing step;
* the mark of the update call tells that the call was made;
* a version tells that the verifier accepted with it and that the response beside it is what is
  left of the accepted one. It never stands beside the mark of the update call or an error.
-/
theorem serve_failure_coherent (endpoint : Endpoint) (context : Context) (answer : KeyResult)
    (visit : Visit) :
    let exchange := serve endpoint context answer visit
    (∀ stage error, FailsFirst endpoint context answer visit stage error →
      ∃ upgraded, exchange.answer? =
        some ⟨errorResponse error, none, ⟨upgraded, none, some error⟩⟩) ∧
    (exchange.answer? = none ↔
      ∃ response key, NeedsVerdict endpoint context.certificateVersion visit response ∧
        (context.anchor.resolve answer).result = .ok key ∧
        context.verifier (visit.query context.certificateVersion) response
          (trustBounds visit.canister key) visit.now = .error .aborted) ∧
    ∀ given, exchange.answer? = some given →
      (∀ error, given.metadata.error? = some error →
        ∃ stage, FailsFirst endpoint context answer visit stage error) ∧
      (given.metadata.upgraded = true ↔
        ∃ canister request, Call.update canister request ∈ exchange.calls) ∧
      (∀ version, given.metadata.version? = some version ↔
        ServesAccepted endpoint context answer visit version given) ∧
      (given.metadata.version?.isSome →
        given.metadata.upgraded = false ∧ given.metadata.error? = none) := by
  intro exchange
  obtain ⟨fetched, hCourse⟩ := exists_course endpoint context answer visit
  have hExchange : exchange = ⟨fetched.answer?, fetched.calls, fetched.anchor⟩ := hCourse.serve_eq
  rw [hExchange]
  refine ⟨?_, Fetched.answer?_eq_none_iff.trans hCourse.result_aborted_iff, ?_⟩
  · intro stage error hFirst
    obtain ⟨other, hOther, hFails⟩ := hFirst.course
    rw [hCourse.eq_fetch, ← hOther.eq_fetch]
    exact ⟨other.upgraded, Fetched.answer?_of_failsWith hFails⟩
  · intro given hAnswer
    refine ⟨?_, ?_, fun version => hCourse.version?_iff hAnswer, hCourse.of_version? hAnswer⟩
    · intro error hError
      rcases Fetched.answer?_cases hAnswer with ⟨found, hFails, rfl⟩ | ⟨_, _, _, _, rfl⟩
      · rw [← Option.some.inj hError]
        exact hCourse.failsFirst hFails
      · cases hError
    · have hMark : given.metadata.upgraded = fetched.upgraded := by
        rcases Fetched.answer?_cases hAnswer with ⟨_, _, rfl⟩ | ⟨_, _, _, _, rfl⟩ <;> rfl
      rw [hMark]
      exact hCourse.upgraded_iff

/-- An update call that fails, a status that has no outbound form although the verifier accepted the
response, and a page that is served with its version. -/
theorem serve_failure_coherent_of_runs :
    let accepting : Verifier := fun _ _ _ _ => .ok ⟨2, none⟩
    let run := fun query update => serve (.constant query update)
      (.ofAnchor (.preset [1]) accepting) (.ok []) (.frontPage false)
    let lost := Error.requestBody "lost"
    (∃ upgraded, (run (.ok ⟨200, [], [], some true, none⟩) (.error lost)).answer? =
      some ⟨errorResponse lost, none, ⟨upgraded, none, some lost⟩⟩) ∧
    (∃ upgraded, (run (.ok ⟨1000, [], [112], none, none⟩) (.error lost)).answer? =
      some ⟨errorResponse .status, none, ⟨upgraded, none, some .status⟩⟩) ∧
    ∃ given, (run (.ok ⟨200, [], [112], none, none⟩) (.error lost)).answer? = some given ∧
      given.metadata.version? = some 2 ∧ given.metadata.error? = none := by
  intro accepting run lost
  have hCoherent := fun query => serve_failure_coherent (.constant query (.error lost))
    (.ofAnchor (.preset [1]) accepting) (.ok []) (.frontPage false)
  refine ⟨?_, ?_, ?_⟩
  · exact (hCoherent (.ok ⟨200, [], [], some true, none⟩)).1 _ _ (.update rfl rfl rfl)
  · let page : Canister.Response := ⟨1000, [], [112], none, none⟩
    have hNeeds : NeedsVerdict (.constant (.ok page) (.error lost)) 2 (.frontPage false) page :=
      ⟨rfl, nofun, rfl⟩
    have hServable : Provenance (.constant (.ok page) (.error lost))
        (.ofAnchor (.preset [1]) accepting) (.ok []) (.frontPage false) page false (some 2) :=
      .verified hNeeds rfl rfl (vouched_narrow page ⟨2, none⟩)
    exact (hCoherent (.ok page)).1 _ _ (.mapping hServable rfl)
  · obtain ⟨-, -, hGiven⟩ := hCoherent (.ok ⟨200, [], [112], none, none⟩)
    refine ⟨_, rfl, rfl, ?_⟩
    exact ((hGiven _ rfl).2.2.2 rfl).2

end CanisterGateway.Gateway
