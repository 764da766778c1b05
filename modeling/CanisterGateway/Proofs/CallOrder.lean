import CanisterGateway.Proofs.Course

/-!
# The order of calls

Which calls a request makes, and with which arguments, is fixed by the answers it gets: a query
first; after that an update call, or nothing, or the root key and then the verifier.

The record of calls is that of what the gateway hears. Whoever answers the recorded calls alike
gets the same answer out of the gateway, whatever else they would have said to other calls; and
whoever fails at one of them gets that failure out of it.

## Main results

* `serve_calls_protocol` — the four orders of calls, exactly when each of them is kept, and that the
  record of them is faithful.
* `reached_iff` — a call is made after others exactly if they and the answers to them lead to it.
* `Outside.serve_congr` — nothing is heard from outside but through a recorded call.
* `Outside.serve_of_fails` — every recorded call is heard: with its failure the request ends.
* `rootKey_mem_calls_iff` — the root key is resolved exactly for a response that needs a verdict.
-/

namespace CanisterGateway.Gateway

variable {endpoint : Endpoint} {context : Context} {answer : KeyResult} {visit : Visit}

/-! ## The root key -/

/-- For a response that needs a verdict the root key is resolved once, right after the query, and
what is known of it then is known afterwards. -/
theorem serve_of_needsVerdict (answer : KeyResult) {response : Canister.Response}
    (hNeeds : NeedsVerdict endpoint context.certificateVersion visit response) :
    (serve endpoint context answer visit).anchor = (context.anchor.resolve answer).anchor ∧
      ∃ more, (∀ asked, Call.rootKey asked ∉ more) ∧
        (serve endpoint context answer visit).calls =
          .query visit.canister (visit.query context.certificateVersion) ::
            .rootKey (context.anchor.resolve answer).asked :: more := by
  cases hKey : (context.anchor.resolve answer).result with
  | error error =>
      rw [(Course.keyless hNeeds hKey).serve_eq]
      exact ⟨rfl, [], by simp, rfl⟩
  | ok key =>
      cases hVerdict : context.verifier (visit.query context.certificateVersion) response
          (trustBounds visit.canister key) visit.now with
      | error stop =>
          rw [(Course.rejected hNeeds hKey hVerdict).serve_eq]
          exact ⟨rfl, [_], by simp, rfl⟩
      | ok acceptance =>
          rw [(Course.accepted hNeeds hKey hVerdict).serve_eq]
          exact ⟨rfl, [_], by simp, rfl⟩

/-- Without the key nobody is asked after it. -/
theorem calls_of_keyless {response : Canister.Response} {error : Error}
    (hNeeds : NeedsVerdict endpoint context.certificateVersion visit response)
    (hKey : (context.anchor.resolve answer).result = .error error) :
    (serve endpoint context answer visit).calls =
      [.query visit.canister (visit.query context.certificateVersion),
        .rootKey (context.anchor.resolve answer).asked] := by
  rw [(Course.keyless hNeeds hKey).serve_eq]

/-- With the key the verifier is asked last. -/
theorem calls_of_key {response : Canister.Response} {key : Bytes}
    (hNeeds : NeedsVerdict endpoint context.certificateVersion visit response)
    (hKey : (context.anchor.resolve answer).result = .ok key) :
    (serve endpoint context answer visit).calls =
      [.query visit.canister (visit.query context.certificateVersion),
        .rootKey (context.anchor.resolve answer).asked,
        .verify (visit.query context.certificateVersion) response
          (trustBounds visit.canister key)] := by
  cases hVerdict : context.verifier (visit.query context.certificateVersion) response
      (trustBounds visit.canister key) visit.now with
  | error stop => rw [(Course.rejected hNeeds hKey hVerdict).serve_eq]
  | ok acceptance => rw [(Course.accepted hNeeds hKey hVerdict).serve_eq]

/-- Without such a response nobody asks for the root key, and nothing changes about it. -/
theorem serve_of_not_needsVerdict (answer : KeyResult)
    (hNone : ¬ ∃ response, NeedsVerdict endpoint context.certificateVersion visit response) :
    (serve endpoint context answer visit).anchor = context.anchor ∧
      ∀ asked, Call.rootKey asked ∉ (serve endpoint context answer visit).calls := by
  obtain ⟨fetched, hCourse⟩ := exists_course endpoint context answer visit
  rw [hCourse.serve_eq]
  cases hCourse with
  | unanswered hQuery => exact ⟨rfl, by simp⟩
  | escalated hQuery hUpgrade => exact ⟨rfl, by simp⟩
  | skipped hQuery hSettled hSkip => exact ⟨rfl, by simp⟩
  | keyless hNeeds hKey => exact absurd ⟨_, hNeeds⟩ hNone
  | rejected hNeeds hKey hVerdict => exact absurd ⟨_, hNeeds⟩ hNone
  | accepted hNeeds hKey hVerdict => exact absurd ⟨_, hNeeds⟩ hNone

/-- The root key is resolved for a response that needs a verdict, and for no other reason. -/
theorem rootKey_mem_calls_iff {asked : Bool} :
    Call.rootKey asked ∈ (serve endpoint context answer visit).calls ↔
      (∃ response, NeedsVerdict endpoint context.certificateVersion visit response) ∧
        asked = (context.anchor.resolve answer).asked := by
  by_cases hSome : ∃ response, NeedsVerdict endpoint context.certificateVersion visit response
  · obtain ⟨response, hNeeds⟩ := hSome
    obtain ⟨_, more, hMore, hCalls⟩ := serve_of_needsVerdict answer hNeeds
    rw [hCalls]
    simp only [List.mem_cons, reduceCtorEq, Call.rootKey.injEq, hMore, or_false, false_or,
      iff_and_self]
    exact fun _ => ⟨response, hNeeds⟩
  · have hCalls := (serve_of_not_needsVerdict answer hSome).2 asked
    simp only [hCalls, hSome, false_and]

/-! ## How a call is reached -/

/-- How a request reaches a call: the calls before it, and the answers to them. -/
inductive Reached (endpoint : Endpoint) (context : Context) (answer : KeyResult) (visit : Visit) :
    List Call → Call → Prop
  | query :
      Reached endpoint context answer visit []
        (.query visit.canister (visit.query context.certificateVersion))
  | update {provisional : Canister.Response}
      (hQuery : endpoint.query visit.canister (visit.query context.certificateVersion)
        = .ok provisional)
      (hUpgrade : provisional.upgrade? = some true) :
      Reached endpoint context answer visit
        [.query visit.canister (visit.query context.certificateVersion)]
        (.update visit.canister (visit.query context.certificateVersion).forUpdate)
  | rootKey {response : Canister.Response}
      (hNeeds : NeedsVerdict endpoint context.certificateVersion visit response) :
      Reached endpoint context answer visit
        [.query visit.canister (visit.query context.certificateVersion)]
        (.rootKey (context.anchor.resolve answer).asked)
  | verify {response : Canister.Response} {key : Bytes}
      (hNeeds : NeedsVerdict endpoint context.certificateVersion visit response)
      (hKey : (context.anchor.resolve answer).result = .ok key) :
      Reached endpoint context answer visit
        [.query visit.canister (visit.query context.certificateVersion),
          .rootKey (context.anchor.resolve answer).asked]
        (.verify (visit.query context.certificateVersion) response
          (trustBounds visit.canister key))

/-- Every call of a course is reached by the calls before it. -/
theorem Course.reached {fetched : Fetched} {before after : List Call} {call : Call}
    (hCourse : Course endpoint context answer visit fetched)
    (hCalls : fetched.calls = before ++ call :: after) :
    Reached endpoint context answer visit before call := by
  -- where a list of calls can be split, by the place of the call
  cases hCourse <;>
    simp only [List.cons_eq_append_iff, List.cons.injEq, List.nil_eq, List.append_eq_nil_iff,
      reduceCtorEq, and_false, exists_const, or_false] at hCalls
  case unanswered | skipped =>
    obtain ⟨rfl, rfl, -⟩ := hCalls
    exact .query
  case escalated hQuery hUpgrade =>
    rcases hCalls with ⟨rfl, rfl, -⟩ | ⟨_, rfl, rfl, rfl, -⟩
    · exact .query
    · exact .update hQuery hUpgrade
  case keyless hNeeds hKey =>
    rcases hCalls with ⟨rfl, rfl, -⟩ | ⟨_, rfl, rfl, rfl, -⟩
    · exact .query
    · exact .rootKey hNeeds
  case rejected hNeeds hKey _ | accepted hNeeds hKey _ =>
    rcases hCalls with ⟨rfl, rfl, -⟩ | ⟨_, rfl, ⟨rfl, rfl, -⟩ | ⟨_, rfl, rfl, rfl, -⟩⟩
    · exact .query
    · exact .rootKey hNeeds
    · exact .verify hNeeds hKey

/-- A call is made after others exactly if they reach it. -/
theorem reached_iff {before : List Call} {call : Call} :
    Reached endpoint context answer visit before call ↔
      ∃ after, (serve endpoint context answer visit).calls = before ++ call :: after := by
  constructor
  · intro h
    cases h with
    | query =>
        obtain ⟨fetched, hCourse⟩ := exists_course endpoint context answer visit
        rw [hCourse.serve_eq]
        cases hCourse <;> exact ⟨_, rfl⟩
    | update hQuery hUpgrade =>
        rw [(Course.escalated hQuery hUpgrade).serve_eq]
        exact ⟨[], rfl⟩
    | rootKey hNeeds =>
        obtain ⟨-, more, -, hCalls⟩ := serve_of_needsVerdict answer hNeeds
        exact ⟨more, hCalls⟩
    | verify hNeeds hKey =>
        exact ⟨[], calls_of_key hNeeds hKey⟩
  · rintro ⟨after, hCalls⟩
    obtain ⟨fetched, hCourse⟩ := exists_course endpoint context answer visit
    rw [hCourse.serve_eq] at hCalls
    exact hCourse.reached hCalls

/-! ## The record is faithful -/

/-- A call as it looks to those who do not see whether the provider of the root key was asked. -/
def Call.outward : Call → Call
  | .rootKey _ => .rootKey false
  | call => call

/-- All that one request may hear from: those who answer calls, what is known of the root key and
what its provider would say, the verifier, and the clock. -/
structure Outside where
  endpoint : Endpoint
  anchor : TrustAnchor
  provided : KeyResult
  verifier : Verifier
  now : Nat

namespace Outside

/-- Serves a request, with one version of certification announced. -/
def serve (outside : Outside) (version : UInt16) (visit : Visit) : Exchange :=
  Gateway.serve outside.endpoint ⟨version, outside.anchor, outside.verifier⟩ outside.provided
    { visit with now := outside.now }

/-- Two outsides say the same to a call. Of the root key only the result counts, and not who had to
be asked for it. -/
def AgreeOn (first second : Outside) : Call → Prop
  | .query canister request =>
    first.endpoint.query canister request = second.endpoint.query canister request
  | .update canister request =>
    first.endpoint.update canister request = second.endpoint.update canister request
  | .rootKey _ =>
    (first.anchor.resolve first.provided).result = (second.anchor.resolve second.provided).result
  | .verify request response bounds =>
    first.verifier request response bounds first.now =
      second.verifier request response bounds second.now

/-- An outside fails at a call. -/
def Fails (outside : Outside) (error : Error) : Call → Prop
  | .query canister request => outside.endpoint.query canister request = .error error
  | .update canister request => outside.endpoint.update canister request = .error error
  | .rootKey _ => (outside.anchor.resolve outside.provided).result = .error error
  | .verify request response bounds =>
    outside.verifier request response bounds outside.now = .error (.fault error)

/-- A list is the record of the calls of a request: what is answered to them decides the answer to
the request and which calls are made, and no call stands there unmade, since with a failure of it
the request would have ended. -/
structure Recorded (outside : Outside) (version : UInt16) (visit : Visit) (calls : List Call) :
    Prop where
  complete (other : Outside) :
    (∀ call ∈ calls, outside.AgreeOn other call) →
      (other.serve version visit).answer? = (outside.serve version visit).answer? ∧
        (other.serve version visit).calls.map Call.outward = calls.map Call.outward
  heard (other : Outside) (before after : List Call) (call : Call) (error : Error) :
    calls = before ++ call :: after → (∀ kept ∈ before, outside.AgreeOn other kept) →
      other.Fails error call →
        (other.serve version visit).calls.map Call.outward =
            (before ++ [call]).map Call.outward ∧
          ∃ upgraded, (other.serve version visit).answer? = some (.failure error upgraded)

end Outside

/-- Who answers the calls of a course alike is met with the same course, since each answer that
decides it belongs to a call. -/
theorem Outside.exists_course_congr {first second : Outside} {version : UInt16} {visit : Visit}
    {fetched : Fetched}
    (hCourse : Course first.endpoint ⟨version, first.anchor, first.verifier⟩ first.provided
      { visit with now := first.now } fetched)
    (hAgree : ∀ call ∈ fetched.calls, first.AgreeOn second call) :
    ∃ other, Course second.endpoint ⟨version, second.anchor, second.verifier⟩ second.provided
        { visit with now := second.now } other ∧
      other.result = fetched.result ∧ other.upgraded = fetched.upgraded ∧
      other.version? = fetched.version? ∧
      other.calls.map Call.outward = fetched.calls.map Call.outward := by
  cases hCourse with
  | unanswered hQuery =>
      have hSame := (hAgree _ (.head _)).symm.trans hQuery
      exact ⟨_, .unanswered hSame, rfl, rfl, rfl, rfl⟩
  | escalated hQuery hUpgrade =>
      have hSame := (hAgree _ (.head _)).symm.trans hQuery
      have hUpdates := (hAgree _ (.tail _ (.head _))).symm
      exact ⟨_, .escalated hSame hUpgrade, congrArg failed hUpdates, rfl, rfl, rfl⟩
  | skipped hQuery hSettled hSkip =>
      have hSame := (hAgree _ (.head _)).symm.trans hQuery
      exact ⟨_, .skipped hSame hSettled hSkip, rfl, rfl, rfl, rfl⟩
  | keyless hNeeds hKey =>
      have hSame := (hAgree _ (.head _)).symm.trans hNeeds.answered
      have hKeys := (hAgree _ (.tail _ (.head _))).symm.trans hKey
      exact ⟨_, .keyless ⟨hSame, hNeeds.settled, hNeeds.wanted⟩ hKeys, rfl, rfl, rfl, rfl⟩
  | rejected hNeeds hKey hVerdict =>
      have hSame := (hAgree _ (.head _)).symm.trans hNeeds.answered
      have hKeys := (hAgree _ (.tail _ (.head _))).symm.trans hKey
      have hVerdicts := (hAgree _ (.tail _ (.tail _ (.head _)))).symm.trans hVerdict
      exact ⟨_, .rejected ⟨hSame, hNeeds.settled, hNeeds.wanted⟩ hKeys hVerdicts,
        rfl, rfl, rfl, rfl⟩
  | accepted hNeeds hKey hVerdict =>
      have hSame := (hAgree _ (.head _)).symm.trans hNeeds.answered
      have hKeys := (hAgree _ (.tail _ (.head _))).symm.trans hKey
      have hVerdicts := (hAgree _ (.tail _ (.tail _ (.head _)))).symm.trans hVerdict
      exact ⟨_, .accepted ⟨hSame, hNeeds.settled, hNeeds.wanted⟩ hKeys hVerdicts,
        rfl, rfl, rfl, rfl⟩

/-- **The record of calls is complete.** Who answers the recorded calls alike gets the same answer
and the same calls. -/
theorem Outside.serve_congr {first second : Outside} {version : UInt16} {visit : Visit}
    (hAgree : ∀ call ∈ (first.serve version visit).calls, first.AgreeOn second call) :
    (second.serve version visit).answer? = (first.serve version visit).answer? ∧
      (second.serve version visit).calls.map Call.outward =
        (first.serve version visit).calls.map Call.outward := by
  unfold Outside.serve at hAgree ⊢
  obtain ⟨fetched, hCourse⟩ := exists_course first.endpoint
    ⟨version, first.anchor, first.verifier⟩ first.provided { visit with now := first.now }
  rw [hCourse.serve_eq] at hAgree ⊢
  obtain ⟨other, hOther, hResult, hUpgraded, hVersion, hCalls⟩ :=
    exists_course_congr hCourse hAgree
  rw [hOther.serve_eq]
  exact ⟨Fetched.answer?_congr hResult hUpgraded hVersion, hCalls⟩

/-- Whoever answers the calls before one alike and fails at that one ends the request there. -/
theorem Reached.exists_course_of_fails {first second : Outside} {version : UInt16}
    {visit : Visit} {before : List Call} {call : Call} {error : Error}
    (hReached : Reached first.endpoint ⟨version, first.anchor, first.verifier⟩ first.provided
      { visit with now := first.now } before call)
    (hAgree : ∀ kept ∈ before, first.AgreeOn second kept) (hFails : second.Fails error call) :
    ∃ other, Course second.endpoint ⟨version, second.anchor, second.verifier⟩ second.provided
        { visit with now := second.now } other ∧
      other.result = .error (.fault error) ∧
      other.calls.map Call.outward = (before ++ [call]).map Call.outward := by
  cases hReached with
  | query => exact ⟨_, .unanswered hFails, rfl, rfl⟩
  | update hQuery hUpgrade =>
      have hSame := (hAgree _ (.head _)).symm.trans hQuery
      exact ⟨_, .escalated hSame hUpgrade, congrArg failed hFails, rfl⟩
  | rootKey hNeeds =>
      have hSame := (hAgree _ (.head _)).symm.trans hNeeds.answered
      exact ⟨_, .keyless ⟨hSame, hNeeds.settled, hNeeds.wanted⟩ hFails, rfl, rfl⟩
  | verify hNeeds hKey =>
      have hSame := (hAgree _ (.head _)).symm.trans hNeeds.answered
      have hKeys := (hAgree _ (.tail _ (.head _))).symm.trans hKey
      exact ⟨_, .rejected ⟨hSame, hNeeds.settled, hNeeds.wanted⟩ hKeys hFails, rfl, rfl⟩

/-- **Every recorded call is heard.** Who answers the calls before it alike and fails at it ends the
request with that failure, and no call is made after it. -/
theorem Outside.serve_of_fails {first second : Outside} {version : UInt16} {visit : Visit}
    {before after : List Call} {call : Call} {error : Error}
    (hCalls : (first.serve version visit).calls = before ++ call :: after)
    (hAgree : ∀ kept ∈ before, first.AgreeOn second kept) (hFails : second.Fails error call) :
    (second.serve version visit).calls.map Call.outward =
        (before ++ [call]).map Call.outward ∧
      ∃ upgraded,
        (second.serve version visit).answer? = some (.failure error upgraded) := by
  unfold Outside.serve at hCalls ⊢
  obtain ⟨other, hOther, hResult, hCallsOther⟩ :=
    (reached_iff.mpr ⟨after, hCalls⟩).exists_course_of_fails hAgree hFails
  refine ⟨?_, other.upgraded, hOther.answer?_of_fault hResult⟩
  rw [hOther.serve_eq]
  exact hCallsOther

theorem Outside.recorded (outside : Outside) (version : UInt16) (visit : Visit) :
    outside.Recorded version visit (outside.serve version visit).calls where
  complete _ hAgree := serve_congr hAgree
  heard _ _ _ _ _ hCalls hAgree hFails := serve_of_fails hCalls hAgree hFails

/-! ## The four orders -/

/-- The calls are the query and those after it. -/
theorem calls_tail_eq_iff {more : List Call} :
    (serve endpoint context answer visit).calls.tail = more ↔
      (serve endpoint context answer visit).calls =
        .query visit.canister (visit.query context.certificateVersion) :: more := by
  obtain ⟨fetched, hCourse⟩ := exists_course endpoint context answer visit
  have hHead : fetched.calls =
      .query visit.canister (visit.query context.certificateVersion) :: fetched.calls.tail := by
    cases hCourse <;> rfl
  rw [hCourse.serve_eq]
  constructor
  · intro h
    rw [← h]
    exact hHead
  · intro h
    show fetched.calls.tail = more
    rw [show fetched.calls = _ from h, List.tail_cons]

/-- Nothing follows the query. -/
theorem calls_tail_eq_nil_iff :
    (serve endpoint context answer visit).calls.tail = [] ↔
      (∃ error,
        endpoint.query visit.canister (visit.query context.certificateVersion) = .error error) ∨
      ∃ response,
        endpoint.query visit.canister (visit.query context.certificateVersion) = .ok response ∧
          response.upgrade? ≠ some true ∧ visit.skipVerification = true := by
  constructor
  · intro h
    obtain ⟨fetched, hCourse⟩ := exists_course endpoint context answer visit
    rw [hCourse.serve_eq] at h
    cases hCourse with
    | unanswered hQuery => exact .inl ⟨_, hQuery⟩
    | skipped hQuery hSettled hSkip => exact .inr ⟨_, hQuery, hSettled, hSkip⟩
    | _ => cases h
  · rintro (⟨error, hQuery⟩ | ⟨response, hQuery, hSettled, hSkip⟩)
    · rw [(Course.unanswered hQuery).serve_eq]
      rfl
    · rw [(Course.skipped hQuery hSettled hSkip).serve_eq]
      rfl

/-- The update call follows, and nothing after it. -/
theorem calls_tail_eq_update_iff :
    (serve endpoint context answer visit).calls.tail =
        [.update visit.canister (visit.query context.certificateVersion).forUpdate] ↔
      ∃ response,
        endpoint.query visit.canister (visit.query context.certificateVersion) = .ok response ∧
          response.upgrade? = some true := by
  constructor
  · intro h
    obtain ⟨fetched, hCourse⟩ := exists_course endpoint context answer visit
    rw [hCourse.serve_eq] at h
    cases hCourse with
    | escalated hQuery hUpgrade => exact ⟨_, hQuery, hUpgrade⟩
    | _ => cases h
  · rintro ⟨response, hQuery, hUpgrade⟩
    rw [(Course.escalated hQuery hUpgrade).serve_eq]
    rfl

/-- A resolution of the root key follows, which fails. -/
theorem calls_tail_eq_rootKey_iff :
    (serve endpoint context answer visit).calls.tail =
        [.rootKey (context.anchor.resolve answer).asked] ↔
      ∃ response, NeedsVerdict endpoint context.certificateVersion visit response ∧
        ∃ error, (context.anchor.resolve answer).result = .error error := by
  constructor
  · intro h
    obtain ⟨fetched, hCourse⟩ := exists_course endpoint context answer visit
    rw [hCourse.serve_eq] at h
    cases hCourse with
    | keyless hNeeds hKey => exact ⟨_, hNeeds, _, hKey⟩
    | _ => cases h
  · rintro ⟨response, hNeeds, error, hKey⟩
    rw [calls_of_keyless hNeeds hKey, List.tail_cons]

/-- A resolution of the root key follows, and then the verifier. -/
theorem calls_tail_eq_verify_iff {response : Canister.Response} {key : Bytes} :
    (serve endpoint context answer visit).calls.tail =
        [.rootKey (context.anchor.resolve answer).asked,
          .verify (visit.query context.certificateVersion) response
            (trustBounds visit.canister key)] ↔
      NeedsVerdict endpoint context.certificateVersion visit response ∧
        (context.anchor.resolve answer).result = .ok key := by
  constructor
  · intro h
    obtain ⟨fetched, hCourse⟩ := exists_course endpoint context answer visit
    rw [hCourse.serve_eq] at h
    cases hCourse with
    | rejected hNeeds hKey hVerdict =>
        cases h
        exact ⟨hNeeds, hKey⟩
    | accepted hNeeds hKey hVerdict =>
        cases h
        exact ⟨hNeeds, hKey⟩
    | _ => cases h
  · rintro ⟨hNeeds, hKey⟩
    rw [calls_of_key hNeeds hKey, List.tail_cons]

/--
**The call protocol of one request.** First and once, the query goes out; it states the version of
certification. What follows is one of four things:

* nothing, if the query fails, or if its answer is no wish for an upgrade and not to be verified;
* the update call, if the canister asks for an upgrade. It is the query without the version;
* a resolution of the root key that fails, if the answer is to be verified;
* a resolution of the root key that succeeds and then the verifier, with the query that was sent,
  the answer as it came, and the fixed bounds for the canister and the key.

These calls are all that the request hears from outside, and each of them is heard.
-/
theorem serve_calls_protocol (endpoint : Endpoint) (context : Context) (answer : KeyResult)
    (visit : Visit) :
    let query := Canister.Request.ofHttp visit.request context.certificateVersion
    let replay := query.forUpdate
    let reply := endpoint.query visit.canister query
    let resolution := context.anchor.resolve answer
    let rest := (serve endpoint context answer visit).calls.tail
    (serve endpoint context answer visit).calls = .query visit.canister query :: rest ∧
    query.certificateVersion? = some context.certificateVersion ∧
    (replay.url = query.url ∧ replay.method = query.method ∧ replay.headers = query.headers ∧
      replay.body = query.body ∧ replay.certificateVersion? = none) ∧
    (rest = [] ↔
      (∃ error, reply = .error error) ∨
        ∃ response, reply = .ok response ∧ response.upgrade? ≠ some true ∧
          visit.skipVerification = true) ∧
    (rest = [.update visit.canister replay] ↔
      ∃ response, reply = .ok response ∧ response.upgrade? = some true) ∧
    (rest = [.rootKey resolution.asked] ↔
      ∃ response, reply = .ok response ∧ response.upgrade? ≠ some true ∧
        visit.skipVerification = false ∧ ∃ error, resolution.result = .error error) ∧
    (∀ response key,
      rest = [.rootKey resolution.asked, .verify query response
          ⟨visit.canister.bytes, key, maxCertificateAge, leastCertificationVersion⟩] ↔
        reply = .ok response ∧ response.upgrade? ≠ some true ∧ visit.skipVerification = false ∧
          resolution.result = .ok key) ∧
    Outside.Recorded ⟨endpoint, context.anchor, answer, context.verifier, visit.now⟩
      context.certificateVersion visit (serve endpoint context answer visit).calls := by
  intro query replay reply resolution rest
  refine ⟨calls_tail_eq_iff.mp rfl, rfl, ⟨rfl, rfl, rfl, rfl, rfl⟩, calls_tail_eq_nil_iff,
    calls_tail_eq_update_iff, ?_, ?_, Outside.recorded _ _ _⟩
  · refine calls_tail_eq_rootKey_iff.trans ?_
    simp only [needsVerdict_iff, and_assoc]
    rfl
  · intro response key
    refine calls_tail_eq_verify_iff.trans ?_
    simp only [needsVerdict_iff, and_assoc]
    rfl

/-- A page that is verified with a key that was fetched for it: nobody hears what an update call
would have been answered, and a verifier that rejects the page is heard. -/
theorem serve_calls_protocol_of_page :
    let page := Canister.Response.mk 200 [] [112] none none
    let accepting : Verifier := fun _ _ _ _ => .ok ⟨2, none⟩
    let rejecting : Verifier := fun _ _ _ _ => .error (.fault .status)
    let run := fun update verifier => serve (.constant (.ok page) update)
      (.ofAnchor .lazy verifier) (.ok [1]) (.frontPage false)
    let query := (Visit.frontPage false).query 2
    let empty := Principal.mk [] (by decide)
    (run (.ok page) accepting).calls =
        [.query empty query, .rootKey true, .verify query page (trustBounds empty [1])] ∧
      (run (.error .status) accepting).answer? = (run (.ok page) accepting).answer? ∧
      ∃ upgraded,
        (run (.ok page) rejecting).answer? = some (.failure .status upgraded) := by
  intro page accepting rejecting run query empty
  obtain ⟨hFirst, -, -, -, -, -, hVerify, hRecorded⟩ := serve_calls_protocol
    (.constant (.ok page) (.ok page)) (.ofAnchor .lazy accepting) (.ok [1]) (.frontPage false)
  have hCalls : (run (.ok page) accepting).calls =
      [.query empty query, .rootKey true, .verify query page (trustBounds empty [1])] := by
    refine hFirst.trans (congrArg _ ?_)
    exact (hVerify page [1]).mpr ⟨rfl, nofun, rfl, rfl⟩
  refine ⟨hCalls, ?_, ?_⟩
  · refine (hRecorded.complete
      ⟨.constant (.ok page) (.error .status), .lazy, .ok [1], accepting, 0⟩ ?_).1
    rw [show (serve _ _ _ _).calls = _ from hCalls]
    exact List.forall_mem_cons.mpr ⟨rfl, List.forall_mem_cons.mpr ⟨rfl,
      List.forall_mem_singleton.mpr rfl⟩⟩
  · refine (hRecorded.heard
      ⟨.constant (.ok page) (.ok page), .lazy, .ok [1], rejecting, 0⟩
      [.query empty query, .rootKey true] [] (.verify query page (trustBounds empty [1])) .status
      hCalls ?_ rfl).2
    exact List.forall_mem_cons.mpr ⟨rfl, List.forall_mem_singleton.mpr rfl⟩

end CanisterGateway.Gateway
