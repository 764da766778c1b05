import CanisterGateway.Proofs.Course

/-!
# Requests that skip the verification

A caller may want the answer to a query as it came, without a verification. Such a request goes the
same way through the gateway as one that is to be verified, only that it ends earlier. So wherever
the verification has nothing to say, both have the same end: if the query fails, if the canister
asks for an upgrade, and if the verifier accepts the whole response. In the last case the metadata
tell them apart, which name a version only beside a response that was verified and is served.

What the verification would have needed is not needed then. The root key, its provider, the verifier
and the time are neither asked nor looked at.

## Main results

* `serve_eq_of_unverifiable` — nothing to verify, nothing to skip.
* `Course.of_skipping` — a request that skips the verification takes the same course in any context
  with the same version.
* `serve_skipping_agrees` — the two requests compared, whatever becomes of them.
-/

namespace CanisterGateway.Gateway

variable {endpoint : Endpoint} {context : Context} {answer : KeyResult} {visit : Visit}
  {fetched : Fetched}

/-! ## Nothing to verify -/

/-- A request whose query fails, or is answered with a wish for an upgrade, does not depend on
whether a verification was wanted. -/
theorem serve_eq_of_unverifiable
    (h : (∃ error,
        endpoint.query visit.canister (visit.query context.certificateVersion) = .error error) ∨
      ∃ response,
        endpoint.query visit.canister (visit.query context.certificateVersion) = .ok response ∧
          response.upgrade? = some true) (skip : Bool) :
    serve endpoint context answer { visit with skipVerification := skip } =
      serve endpoint context answer visit := by
  rcases h with ⟨error, hQuery⟩ | ⟨response, hQuery, hUpgrade⟩
  · have hCourse : Course endpoint context answer visit _ := .unanswered hQuery
    have hOther : Course endpoint context answer { visit with skipVerification := skip } _ :=
      .unanswered hQuery
    rw [hCourse.serve_eq, hOther.serve_eq]
    rfl
  · have hCourse : Course endpoint context answer visit _ := .escalated hQuery hUpgrade
    have hOther : Course endpoint context answer { visit with skipVerification := skip } _ :=
      .escalated hQuery hUpgrade
    rw [hCourse.serve_eq, hOther.serve_eq]
    rfl

/-! ## Nothing but the version -/

/-- Of a context, a request that skips the verification sees the version only. The root key stays as
it is there. -/
theorem Course.of_skipping (hCourse : Course endpoint context answer visit fetched)
    (hSkip : visit.skipVerification = true) {other : Context}
    (hVersion : other.certificateVersion = context.certificateVersion) (provided : KeyResult)
    (later : Nat) :
    Course endpoint other provided { visit with now := later }
      { fetched with anchor := other.anchor } := by
  obtain ⟨version, anchor, verifier⟩ := other
  obtain rfl : version = context.certificateVersion := hVersion
  have hNever : ∀ response,
      ¬ NeedsVerdict endpoint context.certificateVersion visit response := by
    intro response hNeeds
    have hWanted := hNeeds.wanted
    rw [hSkip] at hWanted
    cases hWanted
  cases hCourse with
  | unanswered hQuery => exact .unanswered hQuery
  | escalated hQuery hUpgrade => exact .escalated hQuery hUpgrade
  | skipped hQuery hSettled hSkip => exact .skipped hQuery hSettled hSkip
  | keyless hNeeds hKey => exact absurd hNeeds (hNever _)
  | rejected hNeeds hKey hVerdict => exact absurd hNeeds (hNever _)
  | accepted hNeeds hKey hVerdict => exact absurd hNeeds (hNever _)

/-! ## A response that is accepted as a whole -/

/-- A version is told beside a response that is served, and is all that tells the answers apart. -/
theorem Answer.ofCanister_eq_of_version (response : Canister.Response) (upgraded : Bool)
    (version? : Option UInt16) :
    ∃ outward streaming? error?,
      (error? = none ↔ ∃ outbound, Outbound.ofCanister response = .ok outbound) ∧
      Answer.ofCanister response upgraded none =
        ⟨outward, streaming?, ⟨upgraded, none, error?⟩⟩ ∧
      Answer.ofCanister response upgraded version? =
        ⟨outward, streaming?, ⟨upgraded, if error? = none then version? else none, error?⟩⟩ := by
  unfold Answer.ofCanister
  cases hOutbound : Outbound.ofCanister response with
  | ok outbound =>
      refine ⟨outbound.response, outbound.streaming?, none, ?_, rfl, rfl⟩
      exact iff_of_true rfl ⟨outbound, rfl⟩
  | error error =>
      refine ⟨errorResponse error, none, some error, ?_, rfl, rfl⟩
      exact iff_of_false nofun nofun

/-- The verified request and the skipping one end with the same response, as far as the verifier
accepts all of it. -/
theorem serve_of_accepted_whole {response : Canister.Response} {key : Bytes}
    {acceptance : Certification.Acceptance}
    (hQuery : endpoint.query visit.canister (visit.query context.certificateVersion) = .ok response)
    (hSettled : response.upgrade? ≠ some true)
    (hKey : (context.anchor.resolve answer).result = .ok key)
    (hVerdict : context.verifier (visit.query context.certificateVersion) response
      (trustBounds visit.canister key) visit.now = .ok acceptance)
    (hWhole : acceptance.part? = none) :
    (serve endpoint context answer { visit with skipVerification := false }).answer? =
        some (.ofCanister response false (some acceptance.version)) ∧
      (serve endpoint context answer { visit with skipVerification := true }).answer? =
        some (.ofCanister response false none) := by
  have hNeeds : NeedsVerdict endpoint context.certificateVersion
      { visit with skipVerification := false } response := ⟨hQuery, hSettled, rfl⟩
  have hVerified : Course endpoint context answer { visit with skipVerification := false } _ :=
    .accepted hNeeds hKey hVerdict
  have hSkipped : Course endpoint context answer { visit with skipVerification := true } _ :=
    .skipped hQuery hSettled rfl
  rw [hVerified.serve_eq, hSkipped.serve_eq]
  constructor
  · show Fetched.answer? _ = _
    rw [Fetched.answer?_of_ok rfl, narrow_of_none hWhole]
  · show Fetched.answer? _ = _
    rw [Fetched.answer?_of_ok rfl]

/--
**Skipping the verification changes nothing else.** One request is served twice over the same
answers, once to be verified and once not.

* If the query fails or asks for an upgrade, both exchanges are the same, calls included.
* If the verifier accepts the whole response, the answers agree in response, streaming strategy and
  error, also if there is no outbound form of the response. They differ in the version: it is told
  of the verified request if the response is served, and never of the other.
* The answer to the request that is not verified, and its calls, are the same in any context with
  the same version, at any time, whatever the provider of the root key would say.
-/
theorem serve_skipping_agrees (endpoint : Endpoint) (context : Context) (answer : KeyResult)
    (visit : Visit) :
    let query := Canister.Request.ofHttp visit.request context.certificateVersion
    let reply := endpoint.query visit.canister query
    let skipping := { visit with skipVerification := true }
    let verified := serve endpoint context answer { visit with skipVerification := false }
    let skipped := serve endpoint context answer skipping
    ((∃ error, reply = .error error) ∨
        (∃ response, reply = .ok response ∧ response.upgrade? = some true) →
      verified = skipped) ∧
    (∀ response key acceptance, reply = .ok response → response.upgrade? ≠ some true →
      (context.anchor.resolve answer).result = .ok key →
      context.verifier query response (trustBounds visit.canister key) visit.now =
        .ok acceptance →
      acceptance.part? = none →
      ∃ outward streaming? error?,
        (error? = none ↔ ∃ outbound, Outbound.ofCanister response = .ok outbound) ∧
        skipped.answer? = some ⟨outward, streaming?, ⟨false, none, error?⟩⟩ ∧
        verified.answer? = some ⟨outward, streaming?,
          ⟨false, if error? = none then some acceptance.version else none, error?⟩⟩) ∧
    (∀ other provided later, other.certificateVersion = context.certificateVersion →
      let elsewhere := serve endpoint other provided { skipping with now := later }
      elsewhere.answer? = skipped.answer? ∧ elsewhere.calls = skipped.calls ∧
        elsewhere.anchor = other.anchor) := by
  intro query reply skipping verified skipped
  refine ⟨?_, ?_, ?_⟩
  · intro hUnverifiable
    have hVerified : verified = serve endpoint context answer visit :=
      serve_eq_of_unverifiable hUnverifiable false
    have hSkipped : skipped = serve endpoint context answer visit :=
      serve_eq_of_unverifiable hUnverifiable true
    rw [hVerified, hSkipped]
  · intro response key acceptance hReply hSettled hKey hVerdict hWhole
    obtain ⟨hVerified, hSkipped⟩ := serve_of_accepted_whole hReply hSettled hKey hVerdict hWhole
    obtain ⟨outward, streaming?, error?, hServable, hPlain, hStamped⟩ :=
      Answer.ofCanister_eq_of_version response false (some acceptance.version)
    refine ⟨outward, streaming?, error?, hServable, ?_, ?_⟩
    · show skipped.answer? = _
      rw [hSkipped, hPlain]
    · show verified.answer? = _
      rw [hVerified, hStamped]
  · intro other provided later hVersion elsewhere
    obtain ⟨fetched, hCourse⟩ := exists_course endpoint context answer skipping
    have hOther := hCourse.of_skipping rfl hVersion provided later
    have hElsewhere : elsewhere = ⟨fetched.answer?, fetched.calls, other.anchor⟩ := hOther.serve_eq
    have hSkipped : skipped = ⟨fetched.answer?, fetched.calls, fetched.anchor⟩ := hCourse.serve_eq
    rw [hElsewhere, hSkipped]
    exact ⟨rfl, rfl, rfl⟩

/-- A wish for an upgrade; a page and a status without an outbound form, which the verifier accepts
as they are; and the page once more where there is no root key. -/
theorem serve_skipping_agrees_of_pages :
    let accepting : Verifier := fun _ _ _ _ => .ok ⟨2, none⟩
    let serveOver := fun anchor reply skip =>
      serve (.constant (.ok reply) (.error .rootKeyUnavailable)) (.ofAnchor anchor accepting)
        (.error .rootKeyUnavailable) (.frontPage skip)
    let wish := Canister.Response.mk 200 [] [] (some true) none
    let page := Canister.Response.mk 200 [] [112] none none
    let broken := Canister.Response.mk 1000 [] [112] (some false) none
    serveOver (.preset [1]) wish false = serveOver (.preset [1]) wish true ∧
    (∃ outward, (serveOver (.preset [1]) page true).answer? =
        some ⟨outward, none, ⟨false, none, none⟩⟩ ∧
      (serveOver (.preset [1]) page false).answer? =
        some ⟨outward, none, ⟨false, some 2, none⟩⟩) ∧
    (∃ outward, (serveOver (.preset [1]) broken true).answer? =
        some ⟨outward, none, ⟨false, none, some .status⟩⟩ ∧
      (serveOver (.preset [1]) broken false).answer? =
        some ⟨outward, none, ⟨false, none, some .status⟩⟩) ∧
    (serveOver .absent page true).answer? = (serveOver (.preset [1]) page true).answer? := by
  intro accepting serveOver wish page broken
  have hAgrees := fun reply => serve_skipping_agrees
    (.constant (.ok reply) (.error .rootKeyUnavailable)) (.ofAnchor (.preset [1]) accepting)
    (.error .rootKeyUnavailable) (.frontPage true)
  refine ⟨?_, ?_, ?_, ?_⟩
  · exact (hAgrees wish).1 (.inr ⟨wish, rfl, rfl⟩)
  · obtain ⟨outward, streaming?, error?, -, hSkipped, hVerified⟩ :=
      (hAgrees page).2.1 page [1] ⟨2, none⟩ rfl nofun rfl rfl rfl
    cases hSkipped
    exact ⟨_, rfl, hVerified⟩
  · obtain ⟨outward, streaming?, error?, -, hSkipped, hVerified⟩ :=
      (hAgrees broken).2.1 broken [1] ⟨2, none⟩ rfl nofun rfl rfl rfl
    cases hSkipped
    exact ⟨_, rfl, hVerified⟩
  · exact ((hAgrees page).2.2 (.ofAnchor .absent accepting) _ 0 rfl).1

end CanisterGateway.Gateway
