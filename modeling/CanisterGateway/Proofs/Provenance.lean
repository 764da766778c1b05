import CanisterGateway.Proofs.Course

/-!
# Where a served response comes from

The gateway fails closed: a response without an error is the answer of an update call, the answer
of a query whose caller did not want it verified, or what the verifier vouches for of a query's
answer. `Provenance` states these three origins without reference to how a request is processed.

## Main results

* `serve_ok_iff_provenance` — a response is served without an error exactly if it is the outbound
  form of a response with a provenance.
-/

namespace CanisterGateway.Gateway

/-! ## What an acceptance vouches for -/

/-- What is left of a response by an acceptance: all of it if no part is named, and otherwise the
headers and the body of the part, with the status code of the response if the part has none. The
streaming strategy is that of the response. -/
structure Vouched (acceptance : Certification.Acceptance) (response vouched : Canister.Response) :
    Prop where
  whole : acceptance.part? = none → vouched = response
  status : ∀ part, acceptance.part? = some part →
    vouched.statusCode = part.statusCode?.getD response.statusCode
  headers : ∀ part, acceptance.part? = some part → vouched.headers = part.headers
  body : ∀ part, acceptance.part? = some part → vouched.body = part.body
  streaming : vouched.streaming? = response.streaming?

theorem vouched_narrow (response : Canister.Response) (acceptance : Certification.Acceptance) :
    Vouched acceptance response (narrow response acceptance) := by
  cases hPart : acceptance.part? with
  | none =>
      rw [narrow_of_none hPart]
      constructor <;> simp [hPart]
  | some part =>
      rw [narrow_of_some hPart]
      constructor <;> simp [hPart]

/-- Whatever else is vouched for looks the same to the client. -/
theorem Vouched.ofCanister_eq {acceptance : Certification.Acceptance}
    {response vouched : Canister.Response} (h : Vouched acceptance response vouched) :
    Outbound.ofCanister (narrow response acceptance) = Outbound.ofCanister vouched := by
  cases hPart : acceptance.part? with
  | none => rw [narrow_of_none hPart, h.whole hPart]
  | some part =>
      have hNarrow := vouched_narrow response acceptance
      have hStatus := (hNarrow.status part hPart).trans (h.status part hPart).symm
      have hHeaders := (hNarrow.headers part hPart).trans (h.headers part hPart).symm
      have hBody := (hNarrow.body part hPart).trans (h.body part hPart).symm
      rw [ofCanister_eq_map hStatus hHeaders hBody, hNarrow.streaming, ← h.streaming]
      exact (ofCanister_eq_map rfl rfl rfl).symm

/-! ## The three origins -/

/-- The origins of a canister's response that may be served, with what the metadata say of it. -/
inductive Provenance (endpoint : Endpoint) (context : Context) (answer : KeyResult)
    (visit : Visit) : Canister.Response → (upgraded : Bool) → (version? : Option UInt16) → Prop
  /-- The query asked for an upgrade, and this is the answer to the update call. -/
  | update {provisional response : Canister.Response}
      (hQuery : endpoint.query visit.canister (visit.query context.certificateVersion)
        = .ok provisional)
      (hUpgrade : provisional.upgrade? = some true)
      (hUpdate : endpoint.update visit.canister
        (visit.query context.certificateVersion).forUpdate = .ok response) :
      Provenance endpoint context answer visit response true none
  /-- The query was answered with this, and nobody wanted it verified. -/
  | unverified {response : Canister.Response}
      (hQuery : endpoint.query visit.canister (visit.query context.certificateVersion)
        = .ok response)
      (hSettled : response.upgrade? ≠ some true)
      (hSkip : visit.skipVerification = true) :
      Provenance endpoint context answer visit response false none
  /-- The verifier vouches for this as the answer to the query. -/
  | verified {response vouched : Canister.Response} {key : Bytes}
      {acceptance : Certification.Acceptance}
      (hNeeds : NeedsVerdict endpoint context.certificateVersion visit response)
      (hKey : (context.anchor.resolve answer).result = .ok key)
      (hVerdict : context.verifier (visit.query context.certificateVersion) response
        (trustBounds visit.canister key) visit.now = .ok acceptance)
      (hVouched : Vouched acceptance response vouched) :
      Provenance endpoint context answer visit vouched false (some acceptance.version)

variable {endpoint : Endpoint} {context : Context} {answer : KeyResult} {visit : Visit}

/-- What a course fetches has a provenance. -/
theorem Course.provenance {fetched : Fetched} {response : Canister.Response}
    (hCourse : Course endpoint context answer visit fetched)
    (hResult : fetched.result = .ok response) :
    Provenance endpoint context answer visit response fetched.upgraded fetched.version? := by
  cases hCourse with
  | unanswered hQuery => cases hResult
  | escalated hQuery hUpgrade =>
      cases hUpdate : endpoint.update visit.canister
          (visit.query context.certificateVersion).forUpdate with
      | error error =>
          rw [hUpdate] at hResult
          cases hResult
      | ok committed =>
          rw [hUpdate] at hResult
          cases hResult
          exact .update hQuery hUpgrade hUpdate
  | skipped hQuery hSettled hSkip =>
      cases hResult
      exact .unverified hQuery hSettled hSkip
  | keyless hNeeds hKey => cases hResult
  | rejected hNeeds hKey hVerdict => cases hResult
  | accepted hNeeds hKey hVerdict =>
      cases hResult
      exact .verified hNeeds hKey hVerdict (vouched_narrow _ _)

/-- A provenance is the end of a course that fetches a response with the same outbound form. -/
theorem Provenance.course {response : Canister.Response} {upgraded : Bool}
    {version? : Option UInt16}
    (h : Provenance endpoint context answer visit response upgraded version?) :
    ∃ fetched kept, Course endpoint context answer visit fetched ∧ fetched.result = .ok kept ∧
      fetched.upgraded = upgraded ∧ fetched.version? = version? ∧
      Outbound.ofCanister kept = Outbound.ofCanister response := by
  cases h with
  | update hQuery hUpgrade hUpdate =>
      refine ⟨_, response, .escalated hQuery hUpgrade, ?_, rfl, rfl, rfl⟩
      rw [hUpdate]
      rfl
  | unverified hQuery hSettled hSkip =>
      exact ⟨_, response, .skipped hQuery hSettled hSkip, rfl, rfl, rfl, rfl⟩
  | verified hNeeds hKey hVerdict hVouched =>
      exact ⟨_, _, .accepted hNeeds hKey hVerdict, rfl, rfl, rfl, hVouched.ofCanister_eq⟩

/--
**Fail-closed provenance.** A request is answered without an error exactly if a response with a
provenance has an outbound form, and then status, headers, body and streaming strategy of the
answer are those of that form.
-/
theorem serve_ok_iff_provenance (endpoint : Endpoint) (context : Context) (answer : KeyResult)
    (visit : Visit) (served : Answer) :
    ((serve endpoint context answer visit).answer? = some served ∧
        served.metadata.error? = none) ↔
      ∃ response upgraded version? outbound,
        Provenance endpoint context answer visit response upgraded version? ∧
        Outbound.ofCanister response = .ok outbound ∧
        served = ⟨outbound.response, outbound.streaming?, ⟨upgraded, version?, none⟩⟩ := by
  obtain ⟨fetched, hCourse⟩ := exists_course endpoint context answer visit
  rw [hCourse.serve_eq, Fetched.answer?_ok_iff]
  constructor
  · rintro ⟨response, outbound, hResult, hOutbound, hServed⟩
    exact ⟨response, _, _, outbound, hCourse.provenance hResult, hOutbound, hServed⟩
  · rintro ⟨response, upgraded, version?, outbound, hProvenance, hOutbound, hServed⟩
    obtain ⟨other, kept, hOther, hKept, rfl, rfl, hSame⟩ := hProvenance.course
    have hUnique : other = fetched := hOther.eq_fetch.trans hCourse.eq_fetch.symm
    rw [hUnique] at hKept hServed
    exact ⟨kept, outbound, hKept, hSame.trans hOutbound, hServed⟩

end CanisterGateway.Gateway
