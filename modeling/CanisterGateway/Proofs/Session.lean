import CanisterGateway.Gateway.Settings
import CanisterGateway.Proofs.CallOrder

/-!
# Requests one after another

The requests that a client and its clones serve one after another share what is known of the root
key, and nothing else. A root key that is asked for on the first use makes no difference to their
results, once it could be obtained: they are those of a client that knew the key from the start.

The invariant of a session is the anchor that a request meets. It holds the first key that an
earlier request obtained from the provider, or no key if there is no such request.

## Main results

* `anchor_of_session` — the anchor that a request meets.
* `session_lazy_transparent` — which requests ask the provider, what becomes of them if it fails,
  and which results are those of a key known from the start.
* `Installation.exchanges_eq_session` — what a gateway that was put together does with requests one
  after another is a session.
-/

namespace CanisterGateway.Gateway

/-! ## Turns -/

/-- A request with all that it may hear from but the anchor: those who answer calls, the verifier,
and what the provider of the root key says should it be asked meanwhile. The provider may say
something else in every turn, so a session may meet any sequence of its answers. -/
structure Turn where
  endpoint : Endpoint
  verifier : Verifier
  provided : KeyResult
  visit : Visit

namespace Turn

/-- Serves the request, with this known of the root key. -/
def serve (turn : Turn) (anchor : TrustAnchor) : Exchange :=
  Gateway.serve turn.endpoint (.ofAnchor anchor turn.verifier) turn.provided turn.visit

/-- The request gets as far as a verification, for which the root key is needed. -/
def ReachesVerification (turn : Turn) : Prop :=
  ∃ response,
    NeedsVerdict turn.endpoint Certification.greatestVersion.toUInt16 turn.visit response

/-- The request's outside, an anchor included. -/
def outside (turn : Turn) (anchor : TrustAnchor) : Outside where
  endpoint := turn.endpoint
  anchor := anchor
  provided := turn.provided
  verifier := turn.verifier
  now := turn.visit.now

/-- Of what is known of the root key only the key counts, and that only for a request that reaches
verification. -/
theorem serve_preset (turn : Turn) {anchor : TrustAnchor} {key : Bytes}
    (hKey : turn.ReachesVerification → (anchor.resolve turn.provided).result = .ok key) :
    (turn.serve anchor).answer? = (turn.serve (.preset key)).answer? ∧
      (turn.serve anchor).calls.map Call.outward =
        (turn.serve (.preset key)).calls.map Call.outward := by
  have hAgree : ∀ call ∈ ((turn.outside anchor).serve
      Certification.greatestVersion.toUInt16 turn.visit).calls,
      (turn.outside anchor).AgreeOn (turn.outside (.preset key)) call := by
    intro call hCall
    cases call with
    | query canister request => rfl
    | update canister request => rfl
    | verify request response bounds => rfl
    | rootKey asked =>
        have hReaches := (rootKey_mem_calls_iff.mp hCall).1
        show (anchor.resolve turn.provided).result =
          ((TrustAnchor.preset key).resolve turn.provided).result
        rw [hKey hReaches, TrustAnchor.resolve_eq_of_key rfl]
  obtain ⟨hAnswer, hCalls⟩ := Outside.serve_congr hAgree
  exact ⟨hAnswer.symm, hCalls.symm⟩

end Turn

/-! ## Rounds -/

/-- A turn with the anchor that it meets. -/
structure Round where
  turn : Turn
  anchor : TrustAnchor

namespace Round

/-- What becomes of the request. -/
def exchange (round : Round) : Exchange :=
  round.turn.serve round.anchor

/-- The provider of the root key is asked. -/
def asks (round : Round) : Bool :=
  Installation.askedForKey round.exchange.calls

/-- The key that the provider of the root key is asked for and yields. -/
def obtained? (round : Round) : Option Bytes :=
  if round.asks then round.turn.provided.toOption else none

variable {round : Round} {key? : Option Bytes}

/-- The provider is asked for a key that is needed and not known. -/
theorem asks_iff : round.asks = true ↔ round.turn.ReachesVerification ∧
    round.anchor.key? = none ∧ round.anchor.hasProvider = true := by
  rw [asks, Installation.askedForKey_iff, exchange, Turn.serve, rootKey_mem_calls_iff, eq_comm]
  exact and_congr_right fun _ => TrustAnchor.resolve_asked_iff

theorem resolve_of_asks (hAsks : round.asks = true) :
    (round.anchor.resolve round.turn.provided).result = round.turn.provided :=
  TrustAnchor.resolve_result_of_asked (TrustAnchor.resolve_asked_iff.mpr (asks_iff.mp hAsks).2)

theorem obtained?_eq_some_iff {key : Bytes} :
    round.obtained? = some key ↔ round.asks = true ∧ round.turn.provided = .ok key := by
  rw [obtained?]
  by_cases hAsks : round.asks = true
  · cases hProvided : round.turn.provided <;> simp [hAsks, Except.toOption]
  · simp [hAsks]

theorem obtained?_of_not_reaches (hReaches : ¬ round.turn.ReachesVerification) :
    round.obtained? = none := by
  have hAsks : ¬ round.asks = true := fun h => hReaches (asks_iff.mp h).1
  rw [obtained?, if_neg hAsks]

theorem obtained?_of_error {error : Error} (hProvided : round.turn.provided = .error error) :
    round.obtained? = none := by
  rw [obtained?, hProvided]
  exact ite_self _

/-- A request that reaches verification leaves what the resolution of the root key leaves. -/
theorem exchange_anchor_of_reaches (hReaches : round.turn.ReachesVerification) :
    round.exchange.anchor = (round.anchor.resolve round.turn.provided).anchor := by
  obtain ⟨response, hNeeds⟩ := hReaches
  exact (serve_of_needsVerdict round.turn.provided hNeeds).1

/-- Any other request leaves the anchor alone. -/
theorem exchange_anchor_of_not_reaches (hReaches : ¬ round.turn.ReachesVerification) :
    round.exchange.anchor = round.anchor := by
  have hNone : ¬ ∃ response, NeedsVerdict round.turn.endpoint
      (Context.ofAnchor round.anchor round.turn.verifier).certificateVersion round.turn.visit
      response := hReaches
  exact (serve_of_not_needsVerdict round.turn.provided hNone).1

/-- The step of a session: a key stays known, and otherwise the one that is obtained becomes
known. -/
theorem exchange_anchor (hAnchor : round.anchor = ⟨key?, true⟩) :
    round.exchange.anchor = ⟨key?.or round.obtained?, true⟩ := by
  by_cases hReaches : round.turn.ReachesVerification
  · rw [exchange_anchor_of_reaches hReaches, hAnchor]
    cases key? with
    | some key => rfl
    | none =>
        have hAsks : round.asks = true := by
          rw [asks_iff, hAnchor]
          exact ⟨hReaches, rfl, rfl⟩
        rw [obtained?, if_pos hAsks]
        cases round.turn.provided <;> rfl
  · rw [exchange_anchor_of_not_reaches hReaches, hAnchor, obtained?_of_not_reaches hReaches,
      Option.or_none]

/-- A failure of the provider becomes the answer of the request that asked it, and of no other. -/
theorem exchange_of_outage {error : Error} (hAsks : round.asks = true)
    (hProvided : round.turn.provided = .error error) :
    round.exchange.answer? = some (.failure error false) ∧
      round.exchange.anchor = round.anchor := by
  obtain ⟨response, hNeeds⟩ := (asks_iff.mp hAsks).1
  have hKey := (resolve_of_asks hAsks).trans hProvided
  have hCourse : Course round.turn.endpoint (.ofAnchor round.anchor round.turn.verifier)
      round.turn.provided round.turn.visit _ := .keyless hNeeds hKey
  rw [exchange, Turn.serve, hCourse.serve_eq]
  refine ⟨?_, TrustAnchor.resolve_anchor_of_error hKey⟩
  rw [Fetched.answer?_of_fault rfl]

end Round

/-! ## Sessions -/

/-- Serves requests one after another. Each of them meets the anchor that the one before it left. -/
def session (anchor : TrustAnchor) : List Turn → List Round
  | [] => []
  | turn :: turns =>
    let round := Round.mk turn anchor
    round :: session round.exchange.anchor turns

theorem map_turn_session (anchor : TrustAnchor) (turns : List Turn) :
    (session anchor turns).map Round.turn = turns := by
  induction turns generalizing anchor with
  | nil => rfl
  | cons turn turns ih => rw [session, List.map_cons, ih]

/-- A session with a first round goes on from what that round leaves. -/
theorem session_eq_cons {anchor : TrustAnchor} {turns : List Turn} {round : Round}
    {rounds : List Round} (h : session anchor turns = round :: rounds) :
    round.anchor = anchor ∧ ∃ later, session round.exchange.anchor later = rounds := by
  cases turns with
  | nil => cases h
  | cons turn turns =>
      cases h
      exact ⟨rfl, turns, rfl⟩

/-- **The invariant of a session.** A request meets the key that was known at the beginning, or the
first key that a request before it obtained. -/
theorem anchor_of_session {key? : Option Bytes} {turns : List Turn} {before after : List Round}
    {round : Round} (h : session ⟨key?, true⟩ turns = before ++ round :: after) :
    round.anchor = ⟨key?.or (before.findSome? Round.obtained?), true⟩ := by
  induction before generalizing key? turns with
  | nil =>
      rw [(session_eq_cons h).1, List.findSome?_nil, Option.or_none]
  | cons first before ih =>
      obtain ⟨hFirst, later, hLater⟩ := session_eq_cons h
      rw [Round.exchange_anchor hFirst] at hLater
      rw [ih hLater, Option.or_assoc, List.findSome?_cons]
      cases first.obtained? <;> rfl

section

variable {turns : List Turn} {before after : List Round} {round : Round}

theorem asks_iff_of_session (h : session .lazy turns = before ++ round :: after) :
    round.asks = true ↔
      round.turn.ReachesVerification ∧ ∀ earlier ∈ before, earlier.obtained? = none := by
  rw [Round.asks_iff, anchor_of_session h, Option.none_or, List.findSome?_eq_none_iff]
  simp only [and_true]

/-- A key that was obtained is the one that is known, since nobody asked before it was and nobody
asks after. -/
theorem anchor_of_obtained {known : Round} {key : Bytes}
    (h : session .lazy turns = before ++ round :: after) (hKnown : known ∈ before)
    (hKey : known.obtained? = some key) : round.anchor.key? = some key := by
  obtain ⟨first, second, rfl⟩ := List.append_of_mem hKnown
  have hSplit : session .lazy turns = first ++ known :: (second ++ round :: after) := by
    rw [h, List.append_assoc, List.cons_append]
  have hAsks := (asks_iff_of_session hSplit).mp (Round.obtained?_eq_some_iff.mp hKey).1
  have hFirst : first.findSome? Round.obtained? = none :=
    List.findSome?_eq_none_iff.mpr hAsks.2
  rw [anchor_of_session h, List.findSome?_append, hFirst, List.findSome?_cons, hKey]
  rfl

/-- Who comes after a key was obtained, or obtains it, or does not need it, is served as if it had
been known from the start. -/
theorem resolve_of_session {key : Bytes} (h : session .lazy turns = before ++ round :: after)
    (hKey : ¬ round.turn.ReachesVerification ∨
      ∃ known ∈ before ++ [round], known.obtained? = some key)
    (hReaches : round.turn.ReachesVerification) :
    (round.anchor.resolve round.turn.provided).result = .ok key := by
  rcases hKey with hNot | ⟨known, hKnown, hObtained⟩
  · exact absurd hReaches hNot
  · rcases List.mem_append.mp hKnown with hBefore | hSelf
    · rw [TrustAnchor.resolve_eq_of_key (anchor_of_obtained h hBefore hObtained)]
    · rw [List.mem_singleton.mp hSelf] at hObtained
      obtain ⟨hAsks, hProvided⟩ := Round.obtained?_eq_some_iff.mp hObtained
      exact (Round.resolve_of_asks hAsks).trans hProvided

/-- After a failure of the provider, the next request that reaches verification asks again. -/
theorem asks_after_outage {between rest : List Round} {next : Round} {error : Error}
    (h : session .lazy turns = before ++ round :: (between ++ next :: rest))
    (hAsks : round.asks = true) (hProvided : round.turn.provided = .error error)
    (hBetween : ∀ idle ∈ between, ¬ idle.turn.ReachesVerification)
    (hNext : next.turn.ReachesVerification) : next.asks = true := by
  have hSplit : session .lazy turns = (before ++ round :: between) ++ next :: rest := by
    rw [h, List.append_assoc, List.cons_append]
  refine (asks_iff_of_session hSplit).mpr ⟨hNext, fun earlier hEarlier => ?_⟩
  rcases List.mem_append.mp hEarlier with hBefore | hLater
  · exact ((asks_iff_of_session h).mp hAsks).2 earlier hBefore
  · rcases List.mem_cons.mp hLater with rfl | hIdle
    · exact Round.obtained?_of_error hProvided
    · exact Round.obtained?_of_not_reaches (hBetween earlier hIdle)

end

/--
**A root key that is asked for on the first use is transparent.** The requests of a session are
served in their order. Of each of them, with those before and after it:

* it asks the provider exactly if it reaches verification while no request before it obtained a key;
* if the provider fails it, its answer is that error, the anchor stays as it was, and the next
  request that reaches verification asks again;
* if it or a request before it obtained a key, or if it does not reach verification, its answer is
  the one with that key known from the start, and so are its calls to the canister and the verifier;
* of the requests before it, nothing counts but the first key that they obtained.
-/
theorem session_lazy_transparent (turns : List Turn) :
    (session .lazy turns).map Round.turn = turns ∧
    ∀ before round after, session .lazy turns = before ++ round :: after →
      (round.asks = true ↔
        round.turn.ReachesVerification ∧ ∀ earlier ∈ before, earlier.obtained? = none) ∧
      (∀ error, round.asks = true → round.turn.provided = .error error →
        round.exchange.answer? = some ⟨errorResponse error, none, ⟨false, none, some error⟩⟩ ∧
        round.exchange.anchor = round.anchor ∧
        ∀ between next rest, after = between ++ next :: rest →
          (∀ idle ∈ between, ¬ idle.turn.ReachesVerification) →
          next.turn.ReachesVerification → next.asks = true) ∧
      (∀ key, (¬ round.turn.ReachesVerification ∨
          ∃ known ∈ before ++ [round], known.obtained? = some key) →
        round.exchange.answer? = (round.turn.serve (.preset key)).answer? ∧
        round.exchange.calls.map Call.outward =
          (round.turn.serve (.preset key)).calls.map Call.outward) ∧
      round.exchange = round.turn.serve ⟨before.findSome? Round.obtained?, true⟩ := by
  refine ⟨map_turn_session .lazy turns, ?_⟩
  intro before round after h
  refine ⟨asks_iff_of_session h, ?_, ?_, ?_⟩
  · intro error hAsks hProvided
    obtain ⟨hAnswer, hAnchor⟩ := Round.exchange_of_outage hAsks hProvided
    refine ⟨hAnswer, hAnchor, ?_⟩
    rintro between next rest rfl hBetween hNext
    exact asks_after_outage h hAsks hProvided hBetween hNext
  · intro key hKey
    exact round.turn.serve_preset (resolve_of_session h hKey)
  · rw [Round.exchange, anchor_of_session h, Option.none_or]

/-- A request for a page that needs a key to be verified with, and that one key verifies. -/
def Turn.ofPage (upgrade? : Option Bool) (provided : KeyResult) : Turn where
  endpoint := .constant (.ok ⟨200, [], [112], upgrade?, none⟩) (.ok ⟨200, [], [113], none, none⟩)
  verifier := fun _ _ bounds _ =>
    if bounds.rootKey = [1] then .ok ⟨2, none⟩
    else .error (.fault (.verification .noCertification))
  provided := provided
  visit := .frontPage false

/-- An outage of the provider, an upgrade meanwhile, the provider's recovery, and a change of its
mind that nobody hears of. -/
theorem session_lazy_transparent_of_outage :
    let outage := Turn.ofPage none (.error .rootKeyUnavailable)
    let upgrade := Turn.ofPage (some true) (.error .rootKeyUnavailable)
    let recovery := Turn.ofPage none (.ok [1])
    let change := Turn.ofPage none (.ok [2])
    ∃ first second third fourth,
      session .lazy [outage, upgrade, recovery, change] = [first, second, third, fourth] ∧
      first.exchange.answer? = some
        ⟨errorResponse .rootKeyUnavailable, none, ⟨false, none, some .rootKeyUnavailable⟩⟩ ∧
      second.exchange.answer? = (upgrade.serve (.preset [2])).answer? ∧
      third.asks = true ∧ third.exchange.answer? = (recovery.serve (.preset [1])).answer? ∧
      fourth.asks = false ∧ fourth.exchange.answer? = (change.serve (.preset [1])).answer? := by
  intro outage upgrade recovery change
  have hTurns := session_lazy_transparent [outage, upgrade, recovery, change]
  have hReaches : recovery.ReachesVerification := ⟨_, rfl, nofun, rfl⟩
  have hIdle : ¬ upgrade.ReachesVerification := by
    rintro ⟨response, hAnswered, hSettled, hWanted⟩
    cases hAnswered
    exact hSettled rfl
  refine ⟨_, _, _, _, rfl, ?_, ?_, ?_, ?_, ?_, ?_⟩
  · exact ((hTurns.2 [] _ _ rfl).2.1 _ rfl rfl).1
  · exact ((hTurns.2 [_] _ _ rfl).2.2.1 [2] (.inl hIdle)).1
  · refine ((hTurns.2 [] _ _ rfl).2.1 _ rfl rfl).2.2 [_] _ [_] rfl ?_ hReaches
    intro idle h
    rw [List.mem_singleton.mp h]
    exact hIdle
  · exact ((hTurns.2 [_, _] _ _ rfl).2.2.1 [1] (.inr ⟨_, .tail _ (.tail _ (.head _)), rfl⟩)).1
  · have hAsks := (hTurns.2 [_, _, _] _ _ rfl).1
    rw [Bool.eq_false_iff]
    intro h
    exact nomatch (hAsks.mp h).2 _ (.tail _ (.tail _ (.head _)))
  · exact ((hTurns.2 [_, _, _] _ _ rfl).2.2.1 [1] (.inr ⟨_, .tail _ (.tail _ (.head _)), rfl⟩)).1

/-! ## Sessions of a client -/

namespace Installation

variable {α κ ν : Type}

/-- A request to a gateway that was put together, with those it then hears from. -/
def turn (gateway : Installation α κ ν) (surroundings : Surroundings α κ ν) (visit : Visit) :
    Turn where
  endpoint := gateway.endpoint surroundings
  verifier := gateway.verifier surroundings
  provided := (gateway.keyAnswer surroundings).1
  visit := visit

/-- Serves requests one after another, each in the surroundings of its time. -/
def exchanges (gateway : Installation α κ ν) :
    List (Surroundings α κ ν × Visit) → List Exchange
  | [] => []
  | (surroundings, visit) :: later =>
    let served := gateway.serve surroundings visit
    served.1 :: served.2.exchanges later

/-- The requests to a gateway that was put together are a session, which begins with what the
gateway knows of the root key. -/
theorem exchanges_eq_session (gateway : Installation α κ ν)
    (requests : List (Surroundings α κ ν × Visit)) :
    ∃ turns, turns.map Turn.visit = requests.map Prod.snd ∧
      gateway.exchanges requests = (session gateway.anchor turns).map Round.exchange := by
  induction requests generalizing gateway with
  | nil => exact ⟨[], rfl, rfl⟩
  | cons request later ih =>
      obtain ⟨surroundings, visit⟩ := request
      obtain ⟨turns, hVisits, hExchanges⟩ := ih (gateway.serve surroundings visit).2
      refine ⟨gateway.turn surroundings visit :: turns, congrArg (visit :: ·) hVisits, ?_⟩
      rw [exchanges, hExchanges]
      rfl

end Installation
end CanisterGateway.Gateway
