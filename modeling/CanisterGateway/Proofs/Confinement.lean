import CanisterGateway.Proofs.Course

/-!
# What a query's answer cannot influence

Content that the gateway does not serve leaves no trace in what it serves. That is a statement
about two runs: the same request goes through the gateway twice, with canisters that answer update
calls alike and the query differently, and the answers are compared as wholes.

Three kinds of content are confined. What came with a wish for an upgrade is provisional. What the
verifier did not accept is replaced by its error. And of what it accepted in part, only the
streaming strategy comes through beside the part, and the status code where the part has none.

## Main results

* `serve_confines_content` — the three kinds together, from `serve_eq_of_upgrade`,
  `answer?_eq_of_rejected` and `answer?_of_accepted`.
-/

namespace CanisterGateway.Gateway

/-- The verifier's verdict on a response to the query, should there be a root key to verify it
with. -/
def JudgedAs (context : Context) (answer : KeyResult) (visit : Visit)
    (response : Canister.Response)
    (verdict : Except (Certification.Stop Error) Certification.Acceptance) : Prop :=
  ∀ key, (context.anchor.resolve answer).result = .ok key →
    context.verifier (visit.query context.certificateVersion) response
      (trustBounds visit.canister key) visit.now = verdict

variable {endpoint first second : Endpoint} {context : Context} {answer : KeyResult}
  {visit : Visit} {one other : Canister.Response}

/-! ## Provisional content -/

/-- A canister that asks for an upgrade is heard through its update call only. -/
theorem serve_eq_of_upgrade (later : Nat)
    (hUpdate : ∀ canister request, first.update canister request = second.update canister request)
    (hFirst : first.query visit.canister (visit.query context.certificateVersion) = .ok one)
    (hSecond : second.query visit.canister (visit.query context.certificateVersion) = .ok other)
    (hOne : one.upgrade? = some true) (hOther : other.upgrade? = some true) :
    serve first context answer visit = serve second context answer { visit with now := later } := by
  have hCourse : Course first context answer visit _ := .escalated hFirst hOne
  have hCourse' : Course second context answer { visit with now := later } _ :=
    .escalated hSecond hOther
  rw [hCourse.serve_eq, hCourse'.serve_eq, hUpdate]
  rfl

/-! ## Content that was judged -/

/-- The answer to a request whose response needs a verdict, by what is said about the root key and
by the verdict. -/
def answerOfVerdict? (key : KeyResult) (response : Canister.Response)
    (verdict : Except (Certification.Stop Error) Certification.Acceptance) : Option Answer :=
  match key, verdict with
  | .error error, _ => some (.failure error false)
  | .ok _, .error (.fault error) => some (.failure error false)
  | .ok _, .error .aborted => none
  | .ok _, .ok acceptance =>
    some (.ofCanister (narrow response acceptance) false (some acceptance.version))

theorem serve_answer?_of_judged
    {verdict : Except (Certification.Stop Error) Certification.Acceptance}
    (hNeeds : NeedsVerdict endpoint context.certificateVersion visit one)
    (hVerdict : JudgedAs context answer visit one verdict) :
    (serve endpoint context answer visit).answer? =
      answerOfVerdict? (context.anchor.resolve answer).result one verdict := by
  cases hKey : (context.anchor.resolve answer).result with
  | error error =>
      rw [(Course.keyless hNeeds hKey).serve_eq, Fetched.answer?_of_fault rfl]
      rfl
  | ok key =>
      have hJudged := hVerdict key hKey
      cases verdict with
      | error stop =>
          rw [(Course.rejected hNeeds hKey hJudged).serve_eq]
          cases stop with
          | fault error =>
              rw [Fetched.answer?_of_fault rfl]
              rfl
          | aborted =>
              rw [Fetched.answer?_of_aborted rfl]
              rfl
      | ok acceptance =>
          rw [(Course.accepted hNeeds hKey hJudged).serve_eq, Fetched.answer?_of_ok rfl]
          rfl

/-- Two responses are narrowed to the same part, if it brings its status code or theirs are the
same. -/
theorem narrow_parts_eq {acceptance : Certification.Acceptance}
    {part : Certification.CertifiedPart} (hPart : acceptance.part? = some part)
    (hStatus : part.statusCode?.isSome ∨ one.statusCode = other.statusCode) :
    (narrow other acceptance).statusCode = (narrow one acceptance).statusCode ∧
      (narrow other acceptance).headers = (narrow one acceptance).headers ∧
      (narrow other acceptance).body = (narrow one acceptance).body := by
  rw [narrow_of_some hPart, narrow_of_some hPart]
  refine ⟨?_, rfl, rfl⟩
  rcases hStatus with hSome | hSame
  · obtain ⟨code, hCode⟩ := Option.isSome_iff_exists.mp hSome
    simp only [hCode, Option.getD_some]
  · simp only [hSame]

theorem narrow_streaming (response : Canister.Response)
    (acceptance : Certification.Acceptance) :
    (narrow response acceptance).streaming? = response.streaming? := by
  unfold narrow
  split <;> rfl

/-- A rejected response leaves only the verifier's error behind. -/
theorem answer?_eq_of_rejected {again : Visit} {stop : Certification.Stop Error}
    (hNeeds : NeedsVerdict first context.certificateVersion visit one)
    (hNeeds' : NeedsVerdict second context.certificateVersion again other)
    (hVerdict : JudgedAs context answer visit one (.error stop))
    (hVerdict' : JudgedAs context answer again other (.error stop)) :
    (serve first context answer visit).answer? = (serve second context answer again).answer? := by
  rw [serve_answer?_of_judged hNeeds hVerdict, serve_answer?_of_judged hNeeds' hVerdict']
  cases (context.anchor.resolve answer).result <;> cases stop <;> rfl

/-- Of a response that is accepted in part, the streaming strategy comes through beside the part,
and the status code if the part has none. -/
theorem answer?_of_accepted {again : Visit} {acceptance : Certification.Acceptance}
    {part : Certification.CertifiedPart}
    (hNeeds : NeedsVerdict first context.certificateVersion visit one)
    (hNeeds' : NeedsVerdict second context.certificateVersion again other)
    (hVerdict : JudgedAs context answer visit one (.ok acceptance))
    (hVerdict' : JudgedAs context answer again other (.ok acceptance))
    (hPart : acceptance.part? = some part)
    (hStatus : part.statusCode?.isSome ∨ one.statusCode = other.statusCode) :
    ∃ response metadata,
      (serve first context answer visit).answer? =
        some ⟨response, metadata.passed one.streaming?, metadata⟩ ∧
      (serve second context answer again).answer? =
        some ⟨response, metadata.passed other.streaming?, metadata⟩ := by
  have hAnswer := serve_answer?_of_judged hNeeds hVerdict
  have hAnswer' := serve_answer?_of_judged hNeeds' hVerdict'
  cases hKey : (context.anchor.resolve answer).result with
  | error error =>
      rw [hKey] at hAnswer hAnswer'
      exact ⟨errorResponse error, ⟨false, none, some error⟩, hAnswer, hAnswer'⟩
  | ok key =>
      rw [hKey] at hAnswer hAnswer'
      obtain ⟨hCode, hHeaders, hBody⟩ := narrow_parts_eq hPart hStatus
      obtain ⟨response, metadata, hOne, hOther⟩ :=
        Answer.ofCanister_of_parts_eq hCode hHeaders hBody false (some acceptance.version)
      rw [narrow_streaming] at hOne hOther
      exact ⟨response, metadata, hAnswer.trans (congrArg some hOne),
        hAnswer'.trans (congrArg some hOther)⟩

/--
**Confinement.** One request is served twice, at any two times, over canisters that answer update
calls alike. What their answers to the query may differ in without any difference in the gateway's
answers:

* everything, if both ask for an upgrade;
* everything, if both are judged with the same error;
* everything but the streaming strategy and, where the accepted part has none, the status code, if
  both are accepted with the same part. The streaming strategy is then that of the query's answer,
  or none if the part could not be served.
-/
theorem serve_confines_content (context : Context) (answer : KeyResult) (visit : Visit)
    (later : Nat) (first second : Endpoint) (one other : Canister.Response)
    (hUpdate : ∀ canister request, first.update canister request = second.update canister request)
    (hFirst : first.query visit.canister (visit.query context.certificateVersion) = .ok one)
    (hSecond : second.query visit.canister (visit.query context.certificateVersion) = .ok other) :
    let again := { visit with now := later }
    let answer₁ := (serve first context answer visit).answer?
    let answer₂ := (serve second context answer again).answer?
    (one.upgrade? = some true → other.upgrade? = some true → answer₁ = answer₂) ∧
    (visit.skipVerification = false → one.upgrade? ≠ some true → other.upgrade? ≠ some true →
      (∀ stop, JudgedAs context answer visit one (.error stop) →
        JudgedAs context answer again other (.error stop) → answer₁ = answer₂) ∧
      (∀ acceptance part, JudgedAs context answer visit one (.ok acceptance) →
        JudgedAs context answer again other (.ok acceptance) → acceptance.part? = some part →
        (part.statusCode?.isSome ∨ one.statusCode = other.statusCode) →
        ∃ response metadata,
          answer₁ = some ⟨response, metadata.passed one.streaming?, metadata⟩ ∧
          answer₂ = some ⟨response, metadata.passed other.streaming?, metadata⟩)) := by
  intro again answer₁ answer₂
  refine ⟨?_, ?_⟩
  · intro hOne hOther
    exact congrArg Exchange.answer? (serve_eq_of_upgrade later hUpdate hFirst hSecond hOne hOther)
  · intro hWanted hOne hOther
    have hNeeds : NeedsVerdict first context.certificateVersion visit one :=
      ⟨hFirst, hOne, hWanted⟩
    have hNeeds' : NeedsVerdict second context.certificateVersion again other :=
      ⟨hSecond, hOther, hWanted⟩
    refine ⟨?_, ?_⟩
    · intro stop hVerdict hVerdict'
      exact answer?_eq_of_rejected hNeeds hNeeds' hVerdict hVerdict'
    · intro acceptance part hVerdict hVerdict' hPart hStatus
      exact answer?_of_accepted hNeeds hNeeds' hVerdict hVerdict' hPart hStatus

/-- A verifier that knows one page: it lets its part be served in place of every response with
status 200, and rejects the others. -/
def pageVerifier : Verifier := fun _ response _ _ =>
  if response.statusCode = 200 then .ok ⟨2, some ⟨none, [("etag", "1")], [112]⟩⟩
  else .error (.fault (.verification .noCertification))

/-- Three pairs of answers: two wishes for an upgrade, two that are rejected, and two of which the
same part is accepted. -/
theorem serve_confines_content_of_forgery :
    let context := Context.ofAnchor (.preset [1]) pageVerifier
    let committed := Canister.Response.mk 200 [] [99] none none
    let answerTo := fun response =>
      (serve (.constant (.ok response) (.ok committed)) context (.ok []) (.frontPage false)).answer?
    let streaming := Canister.Streaming.mk ⟨[7], by decide⟩ "next" .null
    answerTo ⟨200, [], [1], some true, none⟩ =
        answerTo ⟨500, [("location", "/")], [2], some true, some streaming⟩ ∧
      answerTo ⟨404, [], [1], none, none⟩ =
        answerTo ⟨500, [("location", "/")], [2], some false, some streaming⟩ ∧
      ∃ response metadata,
        answerTo ⟨200, [], [1], none, none⟩ = some ⟨response, none, metadata⟩ ∧
        answerTo ⟨200, [("location", "/")], [2], some false, some streaming⟩ =
          some ⟨response, metadata.passed (some streaming), metadata⟩ := by
  intro context committed answerTo streaming
  have hConfined := fun one other =>
    serve_confines_content context (.ok []) (.frontPage false) 0
      (.constant (.ok one) (.ok committed)) (.constant (.ok other) (.ok committed)) one other
      (fun _ _ => rfl) rfl rfl
  refine ⟨?_, ?_, ?_⟩
  · exact (hConfined _ _).1 rfl rfl
  · have hRejected := ((hConfined ⟨404, [], [1], none, none⟩
      ⟨500, [("location", "/")], [2], some false, some streaming⟩).2 rfl nofun nofun).1
    exact hRejected _ (fun _ _ => rfl) (fun _ _ => rfl)
  · have hAccepted := ((hConfined ⟨200, [], [1], none, none⟩
      ⟨200, [("location", "/")], [2], some false, some streaming⟩).2 rfl nofun nofun).2
    obtain ⟨response, metadata, hOne, hOther⟩ :=
      hAccepted _ _ (fun _ _ => rfl) (fun _ _ => rfl) rfl (.inr rfl)
    refine ⟨response, metadata, ?_, hOther⟩
    rw [Metadata.passed, ite_self] at hOne
    exact hOne

end CanisterGateway.Gateway
