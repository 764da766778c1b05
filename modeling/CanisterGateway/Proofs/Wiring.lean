import CanisterGateway.Proofs.Session

/-!
# A gateway as it was set up

Settings may come in any order and any number. Of each kind the last one counts, and these five
values decide for all requests to come who is called, who verifies, and with which root key.

The root key is settled in one of three ways. An explicit key is there from the start. Without one,
and without a custom client, it is that of the agent, which offers its own key as it is or fetches
the replica's first. A custom client has no key to offer.

The invariant of a session is told by the agent that offered a key first, which may not have
happened yet. It is the agent that calls are made over from then on, and its key is the one that is
known.

## Main results

* `Settings.ofList_eq` — the settings in force are the last of each kind.
* `HoldsKey.serve`, `HoldsKey.after` — what a request, and a session, leaves of the root key.
* `built_session_wiring` — who is asked during a request in a session, and with which root key.
-/

namespace CanisterGateway.Gateway

variable {α κ ν β : Type}

/-! ## The last of each kind -/

namespace Setting

/-- The agent that is set, if one is. -/
def agent? : Setting α κ ν → Option α
  | .agent value => some value
  | _ => none

/-- The client that is set, if one is. -/
def client? : Setting α κ ν → Option κ
  | .client value => some value
  | _ => none

/-- The root key that is set, if one is. -/
def rootKey? : Setting α κ ν → Option Bytes
  | .rootKey value => some value
  | _ => none

/-- Whether the root key is to be fetched, if that is set. -/
def fetchRootKey? : Setting α κ ν → Option Bool
  | .fetchRootKey value => some value
  | _ => none

/-- The verifier that is set, if one is. -/
def verifier? : Setting α κ ν → Option ν
  | .verifier value => some value
  | _ => none

/-- The last value of a kind among settings. -/
def last? (kind? : Setting α κ ν → Option β) (list : List (Setting α κ ν)) : Option β :=
  (list.filterMap kind?).getLast?

end Setting

open Setting (last?)

namespace Settings

/-- What each setting of a kind overwrites, and no other touches, ends as the last of that kind. -/
theorem read_foldl_apply (read : Settings α κ ν → Option β) (kind? : Setting α κ ν → Option β)
    (hStep : ∀ settings setting, read (settings.apply setting) = (kind? setting).or (read settings))
    (list : List (Setting α κ ν)) (settings : Settings α κ ν) :
    read (list.foldl apply settings) = (last? kind? list).or (read settings) := by
  induction list generalizing settings with
  | nil => rfl
  | cons setting list ih =>
      have hLast : last? kind? (setting :: list) = (last? kind? list).or (kind? setting) := by
        unfold last?
        cases hKind : kind? setting with
        | none => rw [List.filterMap_cons_none hKind, Option.or_none]
        | some value =>
            rw [List.filterMap_cons_some hKind, List.getLast?_cons]
            cases (list.filterMap kind?).getLast? <;> rfl
      rw [List.foldl_cons, ih, hStep, hLast, Option.or_assoc]

/-- The settings in force are the last of each kind. -/
theorem ofList_eq (list : List (Setting α κ ν)) :
    ofList list =
      ⟨last? Setting.agent? list, last? Setting.client? list, last? Setting.rootKey? list,
        (last? Setting.fetchRootKey? list).getD false, last? Setting.verifier? list⟩ := by
  have hAgent : (ofList list).agent? = (last? Setting.agent? list).or none :=
    read_foldl_apply agent? Setting.agent? (fun _ setting => by cases setting <;> rfl) list initial
  have hClient : (ofList list).client? = (last? Setting.client? list).or none :=
    read_foldl_apply client? Setting.client? (fun _ setting => by cases setting <;> rfl) list
      initial
  have hKey : (ofList list).rootKey? = (last? Setting.rootKey? list).or none :=
    read_foldl_apply rootKey? Setting.rootKey? (fun _ setting => by cases setting <;> rfl) list
      initial
  have hFetch : some (ofList list).fetchRootKey =
      (last? Setting.fetchRootKey? list).or (some false) :=
    read_foldl_apply (fun settings => some settings.fetchRootKey) Setting.fetchRootKey?
      (fun _ setting => by cases setting <;> rfl) list initial
  have hVerifier : (ofList list).verifier? = (last? Setting.verifier? list).or none :=
    read_foldl_apply verifier? Setting.verifier? (fun _ setting => by cases setting <;> rfl) list
      initial
  rw [Option.or_none] at hAgent hClient hKey hVerifier
  rw [Option.or_some, Option.some.injEq] at hFetch
  rw [← hAgent, ← hClient, ← hKey, ← hFetch, ← hVerifier]

end Settings

/-! ## What has to be verified -/

/-- The canister's answer to the query is one that has to be verified. -/
def Endpoint.needsVerdict (endpoint : Endpoint) (visit : Visit) : Bool :=
  match endpoint.query visit.canister (visit.query Certification.greatestVersion.toUInt16) with
  | .ok response => !response.isUpgrade && !visit.skipVerification
  | .error _ => false

theorem Endpoint.needsVerdict_iff {endpoint : Endpoint} {visit : Visit} :
    endpoint.needsVerdict visit = true ↔
      ∃ response, NeedsVerdict endpoint Certification.greatestVersion.toUInt16 visit response := by
  unfold needsVerdict
  constructor
  · intro h
    split at h
    case h_1 response hQuery =>
      rw [Bool.and_eq_true, Bool.not_eq_true', Bool.not_eq_true'] at h
      have hSettled : response.upgrade? ≠ some true := by
        intro hUpgrade
        rw [isUpgrade_iff.mpr hUpgrade] at h
        exact absurd h.1 (by decide)
      exact ⟨response, hQuery, hSettled, h.2⟩
    case h_2 => cases h
  · rintro ⟨response, hQuery, hSettled, hWanted⟩
    have hStays : response.isUpgrade = false := by
      rw [Bool.eq_false_iff]
      exact mt isUpgrade_iff.mp hSettled
    rw [hQuery]
    simp only [hStays, hWanted]
    rfl

/-- The root key that a call shows the verifier, if it is one to the verifier. -/
def Call.shownKey? : Call → Option Bytes
  | .verify _ _ bounds => some bounds.rootKey
  | _ => none

/-- The root keys that the verifier gets to see. -/
def shownKeys (calls : List Call) : List Bytes :=
  calls.filterMap Call.shownKey?

/-- What has to be verified is shown to the verifier with the root key, if there is one. -/
theorem shownKeys_serve (endpoint : Endpoint) (anchor : TrustAnchor) (verifier : Verifier)
    (provided : KeyResult) (visit : Visit) :
    shownKeys (serve endpoint (.ofAnchor anchor verifier) provided visit).calls =
      if endpoint.needsVerdict visit then (anchor.resolve provided).result.toOption.toList
      else [] := by
  by_cases hNeeded : endpoint.needsVerdict visit = true
  · rw [if_pos hNeeded]
    obtain ⟨response, hNeeds⟩ := Endpoint.needsVerdict_iff.mp hNeeded
    cases hKey : (anchor.resolve provided).result with
    | error error =>
        have hCalls : (serve endpoint (.ofAnchor anchor verifier) provided visit).calls = _ :=
          calls_of_keyless hNeeds hKey
        rw [hCalls]
        rfl
    | ok key =>
        have hCalls : (serve endpoint (.ofAnchor anchor verifier) provided visit).calls = _ :=
          calls_of_key hNeeds hKey
        rw [hCalls]
        rfl
  · rw [if_neg hNeeded]
    obtain ⟨fetched, hCourse⟩ :=
      exists_course endpoint (.ofAnchor anchor verifier) provided visit
    rw [hCourse.serve_eq]
    cases hCourse with
    | unanswered hQuery => rfl
    | escalated hQuery hUpgrade => rfl
    | skipped hQuery hSettled hSkip => rfl
    | keyless hNeeds hKey => exact absurd (Endpoint.needsVerdict_iff.mpr ⟨_, hNeeds⟩) hNeeded
    | rejected hNeeds hKey hVerdict =>
        exact absurd (Endpoint.needsVerdict_iff.mpr ⟨_, hNeeds⟩) hNeeded
    | accepted hNeeds hKey hVerdict =>
        exact absurd (Endpoint.needsVerdict_iff.mpr ⟨_, hNeeds⟩) hNeeded

/-- Without a root key, what has to be verified fails with the reason for that. -/
theorem serve_answer?_of_keyless {endpoint : Endpoint} {anchor : TrustAnchor}
    {provided : KeyResult} {visit : Visit} {error : Error}
    (hNeeded : endpoint.needsVerdict visit = true)
    (hKey : (anchor.resolve provided).result = .error error) (verifier : Verifier) :
    (serve endpoint (.ofAnchor anchor verifier) provided visit).answer? =
      some (.failure error false) := by
  obtain ⟨response, hNeeds⟩ := Endpoint.needsVerdict_iff.mp hNeeded
  have hCourse : Course endpoint (.ofAnchor anchor verifier) provided visit _ :=
    .keyless hNeeds hKey
  rw [hCourse.serve_eq, Fetched.answer?_of_fault rfl]

/-! ## What an agent has to offer -/

/-- The agent with the key that it offers: its own as it is, or the one that it has after fetching
the replica's first. -/
def supply? (own : Replica.Agent) (fetch : Bool) (network : Replica.Network) :
    Option Replica.Agent :=
  if fetch then (own.fetchRootKey network).toOption else some own

/-- What the agent offers a request: nothing, unless it gets as far as a verification. -/
def offer? (own : Replica.Agent) (fetch : Bool) (agent? : Option α)
    (request : Surroundings α κ ν × Visit) : Option Replica.Agent :=
  let network := request.1.network agent?
  if (own.endpoint network).needsVerdict request.2 then supply? own fetch network else none

/-- The agent with the first key that it offers to one of the requests. -/
def holder? (own : Replica.Agent) (fetch : Bool) (agent? : Option α)
    (requests : List (Surroundings α κ ν × Visit)) : Option Replica.Agent :=
  requests.findSome? (offer? own fetch agent?)

theorem holder?_append (own : Replica.Agent) (fetch : Bool) (agent? : Option α)
    (requests : List (Surroundings α κ ν × Visit)) (request : Surroundings α κ ν × Visit) :
    holder? own fetch agent? (requests ++ [request]) =
      (holder? own fetch agent? requests).or (offer? own fetch agent? request) := by
  unfold holder?
  rw [List.findSome?_append, List.findSome?_singleton]

/-- Who holds a key offered it to one of the requests. -/
theorem exists_supply_of_holder? {own holder : Replica.Agent} {fetch : Bool} {agent? : Option α}
    {requests : List (Surroundings α κ ν × Visit)}
    (h : holder? own fetch agent? requests = some holder) :
    ∃ request ∈ requests, supply? own fetch (request.1.network agent?) = some holder := by
  obtain ⟨request, hRequest, hOffer⟩ := List.exists_of_findSome?_eq_some h
  refine ⟨request, hRequest, ?_⟩
  by_cases hNeeds :
      (own.endpoint (request.1.network agent?)).needsVerdict request.2 = true
  · rw [← hOffer, offer?, if_pos hNeeds]
  · rw [offer?, if_neg hNeeds] at hOffer
    cases hOffer

theorem fetchRootKey_of_supply {own holder : Replica.Agent} {network : Replica.Network}
    (h : supply? own true network = some holder) : own.fetchRootKey network = .ok holder := by
  have hFetch : (own.fetchRootKey network).toOption = some holder := h
  cases hResult : own.fetchRootKey network with
  | error error =>
      rw [hResult] at hFetch
      cases hFetch
  | ok fetched =>
      rw [hResult] at hFetch
      cases hFetch
      rfl

theorem provideRootKey_of_supply {own holder : Replica.Agent} {fetch : Bool}
    {network : Replica.Network} (h : supply? own fetch network = some holder) :
    own.provideRootKey fetch network = (.ok holder.rootKey, holder) := by
  cases fetch with
  | false =>
      cases h
      rfl
  | true =>
      simp only [Replica.Agent.provideRootKey, fetchRootKey_of_supply h, if_true]

/-- Only fetching can fail, and then the agent is as it was. -/
theorem provideRootKey_of_no_supply {own : Replica.Agent} {fetch : Bool}
    {network : Replica.Network} (h : supply? own fetch network = none) :
    ∃ error, fetch = true ∧ own.fetchRootKey network = .error error ∧
      own.provideRootKey fetch network = (.error (.call error), own) := by
  cases fetch with
  | false => cases h
  | true =>
      have hFetch : (own.fetchRootKey network).toOption = none := h
      cases hResult : own.fetchRootKey network with
      | ok fetched =>
          rw [hResult] at hFetch
          cases hFetch
      | error error =>
          refine ⟨error, rfl, rfl, ?_⟩
          simp only [Replica.Agent.provideRootKey, hResult, if_true]

namespace Installation

variable {gateway : Installation α κ ν} {own : Replica.Agent} {fetch : Bool} {agent? : Option α}
  {found? : Option Replica.Agent}

/-! ## Sessions of a gateway -/

/-- The gateway after it served requests one after another. -/
def after (gateway : Installation α κ ν) :
    List (Surroundings α κ ν × Visit) → Installation α κ ν
  | [] => gateway
  | (surroundings, visit) :: later => (gateway.serve surroundings visit).2.after later

/-- The exchange in the middle of a session is that with the gateway as the requests before it left
it. -/
theorem exchanges_getElem? (gateway : Installation α κ ν)
    (earlier later : List (Surroundings α κ ν × Visit)) (surroundings : Surroundings α κ ν)
    (visit : Visit) :
    (gateway.exchanges (earlier ++ (surroundings, visit) :: later))[earlier.length]? =
      some ((gateway.after earlier).serve surroundings visit).1 := by
  induction earlier generalizing gateway with
  | nil => rfl
  | cons request earlier ih => exact ih (gateway.serve request.1 request.2).2

theorem wiring_after (gateway : Installation α κ ν)
    (requests : List (Surroundings α κ ν × Visit)) :
    (gateway.after requests).wiring = gateway.wiring := by
  induction requests generalizing gateway with
  | nil => rfl
  | cons request requests ih => exact ih (gateway.serve request.1 request.2).2

theorem verifier_eq (gateway : Installation α κ ν) (surroundings : Surroundings α κ ν) :
    gateway.verifier surroundings =
      (gateway.wiring.verifier?.map surroundings.verifier).getD certificateVerifier := by
  unfold verifier
  cases gateway.wiring.verifier? <;> rfl

/-- A request to the gateway, with what is known of the root key then. -/
def round (gateway : Installation α κ ν) (surroundings : Surroundings α κ ν) (visit : Visit) :
    Round :=
  ⟨gateway.turn surroundings visit, gateway.anchor⟩

/-- What has to be verified is shown to the verifier with the root key that was settled for it. -/
theorem shown_eq (gateway : Installation α κ ν) (surroundings : Surroundings α κ ν)
    (visit : Visit) :
    shownKeys (gateway.serve surroundings visit).1.calls =
      if (gateway.endpoint surroundings).needsVerdict visit then
        (gateway.anchor.resolve (gateway.keyAnswer surroundings).1).result.toOption.toList
      else [] :=
  shownKeys_serve _ _ _ _ visit

/-! ## Without a provider -/

/-- A gateway whose root key has no provider asks nobody for it, and stays as it is. -/
theorem serve_of_no_provider (hProvider : gateway.anchor.hasProvider = false)
    (surroundings : Surroundings α κ ν) (visit : Visit) :
    Call.rootKey true ∉ (gateway.serve surroundings visit).1.calls ∧
      (gateway.serve surroundings visit).2 = gateway := by
  have hAsks : ¬ (gateway.round surroundings visit).asks = true := by
    intro h
    have hSome := (Round.asks_iff.mp h).2.2
    have hMet : (gateway.round surroundings visit).anchor = gateway.anchor := rfl
    rw [hMet, hProvider] at hSome
    cases hSome
  have hAnchor : (gateway.round surroundings visit).exchange.anchor = gateway.anchor := by
    by_cases hReaches : (gateway.turn surroundings visit).ReachesVerification
    · exact (Round.exchange_anchor_of_reaches hReaches).trans
        (TrustAnchor.resolve_anchor_of_no_provider hProvider _)
    · exact Round.exchange_anchor_of_not_reaches hReaches
  constructor
  · exact mt askedForKey_iff.mpr hAsks
  · show Installation.mk gateway.wiring (gateway.round surroundings visit).exchange.anchor
      (if (gateway.round surroundings visit).asks = true then
        (gateway.keyAnswer surroundings).2 else gateway.agent) = gateway
    rw [hAnchor, if_neg hAsks]

/-- With an explicit root key, that is what the verifier is shown. -/
theorem serve_of_preset {key : Bytes} (hAnchor : gateway.anchor = .preset key)
    (surroundings : Surroundings α κ ν) (visit : Visit) :
    let exchange := (gateway.serve surroundings visit).1
    Call.rootKey true ∉ exchange.calls ∧
      shownKeys exchange.calls =
        if (gateway.endpoint surroundings).needsVerdict visit then [key] else [] := by
  intro exchange
  have hProvider : gateway.anchor.hasProvider = false := by
    rw [hAnchor]
    rfl
  refine ⟨(serve_of_no_provider hProvider surroundings visit).1, ?_⟩
  rw [shown_eq, hAnchor]
  rfl

/-- Without a root key and without a provider, nothing gets as far as the verifier. -/
theorem serve_of_absent (hAnchor : gateway.anchor = .absent)
    (surroundings : Surroundings α κ ν) (visit : Visit) :
    let exchange := (gateway.serve surroundings visit).1
    Call.rootKey true ∉ exchange.calls ∧ shownKeys exchange.calls = [] ∧
      ((gateway.endpoint surroundings).needsVerdict visit = true →
        exchange.answer? = some (.failure .rootKeyUnavailable false)) := by
  intro exchange
  have hProvider : gateway.anchor.hasProvider = false := by
    rw [hAnchor]
    rfl
  have hResult : (gateway.anchor.resolve (gateway.keyAnswer surroundings).1).result =
      .error .rootKeyUnavailable := by
    rw [hAnchor]
    rfl
  refine ⟨(serve_of_no_provider hProvider surroundings visit).1, ?_, ?_⟩
  · rw [shown_eq, hResult]
    exact ite_self []
  · intro hNeeds
    exact serve_answer?_of_keyless hNeeds hResult _

theorem after_of_no_provider (hProvider : gateway.anchor.hasProvider = false)
    (requests : List (Surroundings α κ ν × Visit)) : gateway.after requests = gateway := by
  induction requests with
  | nil => rfl
  | cons request requests ih =>
      rw [after, (serve_of_no_provider hProvider request.1 request.2).2]
      exact ih

/-! ## With the agent's key -/

/-- The gateway takes its root key from its agent, `own` at the beginning. If an agent has been
found with a key to offer, it is the gateway's agent by now, and its key is known. -/
structure HoldsKey (own : Replica.Agent) (fetch : Bool) (agent? : Option α)
    (gateway : Installation α κ ν) (found? : Option Replica.Agent) : Prop where
  route : gateway.wiring.route = .agent agent?
  source : gateway.wiring.keySource = .agent fetch
  anchor : gateway.anchor = ⟨found?.map Replica.Agent.rootKey, true⟩
  agent : gateway.agent = found?.getD own

namespace HoldsKey

variable {surroundings : Surroundings α κ ν} {visit : Visit}

theorem endpoint_eq (h : HoldsKey own fetch agent? gateway found?)
    (surroundings : Surroundings α κ ν) :
    gateway.endpoint surroundings =
      (found?.getD own).endpoint (surroundings.network agent?) := by
  rw [Installation.endpoint, h.route, h.agent]

theorem keyAnswer_eq (h : HoldsKey own fetch agent? gateway found?)
    (surroundings : Surroundings α κ ν) :
    gateway.keyAnswer surroundings =
      (found?.getD own).provideRootKey fetch (surroundings.network agent?) := by
  rw [Installation.keyAnswer, h.route, h.source, h.agent]

/-- Which root key an agent trusts has no influence on its queries. -/
theorem needsVerdict_eq (h : HoldsKey own fetch agent? gateway found?)
    (surroundings : Surroundings α κ ν) (visit : Visit) :
    (gateway.endpoint surroundings).needsVerdict visit =
      (own.endpoint (surroundings.network agent?)).needsVerdict visit := by
  rw [h.endpoint_eq]
  rfl

theorem reaches_iff (h : HoldsKey own fetch agent? gateway found?) :
    (gateway.round surroundings visit).turn.ReachesVerification ↔
      (own.endpoint (surroundings.network agent?)).needsVerdict visit = true := by
  rw [← h.needsVerdict_eq, Endpoint.needsVerdict_iff]
  exact Iff.rfl

theorem asks_iff (h : HoldsKey own fetch agent? gateway found?) :
    (gateway.round surroundings visit).asks = true ↔
      (own.endpoint (surroundings.network agent?)).needsVerdict visit = true ∧
        found? = none := by
  have hAnchor : (gateway.round surroundings visit).anchor =
      ⟨found?.map Replica.Agent.rootKey, true⟩ := h.anchor
  rw [Round.asks_iff, h.reaches_iff, hAnchor, Option.map_eq_none_iff]
  simp only [and_true]

/-- A request that asks for the key gets what the agent offers. -/
theorem of_asks (h : HoldsKey own fetch agent? gateway found?)
    (hAsks : (gateway.round surroundings visit).asks = true) :
    offer? own fetch agent? (surroundings, visit) =
        supply? own fetch (surroundings.network agent?) ∧
      gateway.keyAnswer surroundings =
        own.provideRootKey fetch (surroundings.network agent?) := by
  obtain ⟨hNeeds, rfl⟩ := h.asks_iff.mp hAsks
  exact ⟨if_pos hNeeds, h.keyAnswer_eq surroundings⟩

/-- The step of a session. -/
theorem serve (h : HoldsKey own fetch agent? gateway found?) (surroundings : Surroundings α κ ν)
    (visit : Visit) :
    HoldsKey own fetch agent? (gateway.serve surroundings visit).2
      (found?.or (offer? own fetch agent? (surroundings, visit))) := by
  have hMet : (gateway.round surroundings visit).anchor =
      ⟨found?.map Replica.Agent.rootKey, true⟩ := h.anchor
  have hAnchor : (gateway.serve surroundings visit).2.anchor =
      ⟨(found?.map Replica.Agent.rootKey).or (gateway.round surroundings visit).obtained?, true⟩ :=
    Round.exchange_anchor hMet
  have hAgent : (gateway.serve surroundings visit).2.agent =
      if (gateway.round surroundings visit).asks = true then (gateway.keyAnswer surroundings).2
      else gateway.agent := rfl
  by_cases hAsks : (gateway.round surroundings visit).asks = true
  · obtain ⟨hOffer, hAnswer⟩ := h.of_asks hAsks
    obtain rfl : found? = none := (h.asks_iff.mp hAsks).2
    have hObtained : (gateway.round surroundings visit).obtained? =
        (gateway.keyAnswer surroundings).1.toOption := if_pos hAsks
    rw [hObtained, hAnswer] at hAnchor
    rw [if_pos hAsks, hAnswer] at hAgent
    rw [Option.none_or, hOffer]
    cases hSupply : supply? own fetch (surroundings.network agent?) with
    | none =>
        obtain ⟨error, -, -, hProvide⟩ := provideRootKey_of_no_supply hSupply
        rw [hProvide] at hAnchor hAgent
        exact ⟨h.route, h.source, hAnchor, hAgent⟩
    | some holder =>
        rw [provideRootKey_of_supply hSupply] at hAnchor hAgent
        exact ⟨h.route, h.source, hAnchor, hAgent⟩
  · have hObtained : (gateway.round surroundings visit).obtained? = none := if_neg hAsks
    have hKept : found?.or (offer? own fetch agent? (surroundings, visit)) = found? := by
      cases found? with
      | some holder => rfl
      | none =>
          have hIdle := fun hNeeds => hAsks (h.asks_iff.mpr ⟨hNeeds, rfl⟩)
          exact if_neg hIdle
    rw [hObtained, Option.or_none] at hAnchor
    rw [if_neg hAsks, h.agent] at hAgent
    rw [hKept]
    exact ⟨h.route, h.source, hAnchor, hAgent⟩

/-- The invariant of a session. -/
theorem after (h : HoldsKey own fetch agent? gateway found?)
    (requests : List (Surroundings α κ ν × Visit)) :
    HoldsKey own fetch agent? (gateway.after requests)
      (found?.or (holder? own fetch agent? requests)) := by
  induction requests generalizing gateway found? with
  | nil =>
      rw [holder?, List.findSome?_nil, Option.or_none]
      exact h
  | cons request requests ih =>
      have hRest := ih (h.serve request.1 request.2)
      have hHolder : holder? own fetch agent? (request :: requests) =
          (offer? own fetch agent? request).or (holder? own fetch agent? requests) := by
        unfold holder?
        rw [List.findSome?_cons]
        cases offer? own fetch agent? request <;> rfl
      rw [hHolder, ← Option.or_assoc]
      exact hRest

/-- What has to be verified is verified with the key of the agent that has offered one by then. If
there is none, fetching has just failed. -/
theorem resolve_result (h : HoldsKey own fetch agent? gateway found?)
    (hNeeds : (own.endpoint (surroundings.network agent?)).needsVerdict visit = true) :
    (∃ holder, found?.or (offer? own fetch agent? (surroundings, visit)) = some holder ∧
      (gateway.anchor.resolve (gateway.keyAnswer surroundings).1).result = .ok holder.rootKey) ∨
    ∃ error, found?.or (offer? own fetch agent? (surroundings, visit)) = none ∧ fetch = true ∧
      own.fetchRootKey (surroundings.network agent?) = .error error ∧
      (gateway.anchor.resolve (gateway.keyAnswer surroundings).1).result =
        .error (.call error) := by
  cases found? with
  | some holder =>
      have hKey : gateway.anchor.key? = some holder.rootKey := by rw [h.anchor, Option.map_some]
      rw [TrustAnchor.resolve_eq_of_key hKey]
      exact .inl ⟨holder, rfl, rfl⟩
  | none =>
      have hAsks := h.asks_iff.mpr ⟨hNeeds, rfl⟩
      obtain ⟨hOffer, hAnswer⟩ := h.of_asks hAsks
      have hResult : (gateway.anchor.resolve (gateway.keyAnswer surroundings).1).result =
          (gateway.keyAnswer surroundings).1 := Round.resolve_of_asks hAsks
      rw [Option.none_or, hOffer, hResult, hAnswer]
      cases hSupply : supply? own fetch (surroundings.network agent?) with
      | some holder =>
          rw [provideRootKey_of_supply hSupply]
          exact .inl ⟨holder, rfl, rfl⟩
      | none =>
          obtain ⟨error, hFetch, hError, hProvide⟩ := provideRootKey_of_no_supply hSupply
          rw [hProvide]
          exact .inr ⟨error, rfl, hFetch, hError, rfl⟩

theorem shownKeys_eq (h : HoldsKey own fetch agent? gateway found?)
    (surroundings : Surroundings α κ ν) (visit : Visit) :
    shownKeys (gateway.serve surroundings visit).1.calls =
      if (own.endpoint (surroundings.network agent?)).needsVerdict visit then
        ((found?.or (offer? own fetch agent? (surroundings, visit))).map
          Replica.Agent.rootKey).toList
      else [] := by
  rw [shown_eq, h.needsVerdict_eq]
  by_cases hNeeds : (own.endpoint (surroundings.network agent?)).needsVerdict visit = true
  · rw [if_pos hNeeds, if_pos hNeeds]
    rcases h.resolve_result hNeeds with ⟨holder, hHolder, hResult⟩ | ⟨error, hNone, -, -, hResult⟩
    · rw [hHolder, hResult]
      rfl
    · rw [hNone, hResult]
      rfl
  · rw [if_neg hNeeds, if_neg hNeeds]

theorem exists_of_mem_shownKeys (h : HoldsKey own fetch agent? gateway found?) {key : Bytes}
    (hMem : key ∈ shownKeys (gateway.serve surroundings visit).1.calls) :
    ∃ holder, found?.or (offer? own fetch agent? (surroundings, visit)) = some holder ∧
      key = holder.rootKey := by
  rw [h.shownKeys_eq] at hMem
  split at hMem
  case isFalse => cases hMem
  case isTrue =>
    obtain ⟨holder, hSome, hKey⟩ := Option.map_eq_some_iff.mp (Option.mem_toList.mp hMem)
    exact ⟨holder, hSome, hKey.symm⟩

/-- The verifier is shown nothing but what the agent offered to one of the requests so far. -/
theorem exists_supply_of_mem_shownKeys {earlier : List (Surroundings α κ ν × Visit)}
    (h : HoldsKey own fetch agent? gateway (holder? own fetch agent? earlier)) {key : Bytes}
    (hMem : key ∈ shownKeys (gateway.serve surroundings visit).1.calls) :
    ∃ request ∈ earlier ++ [(surroundings, visit)], ∃ holder,
      supply? own fetch (request.1.network agent?) = some holder ∧ key = holder.rootKey := by
  obtain ⟨holder, hSome, hKey⟩ := h.exists_of_mem_shownKeys hMem
  rw [← holder?_append] at hSome
  obtain ⟨request, hRequest, hSupply⟩ := exists_supply_of_holder? hSome
  exact ⟨request, hRequest, holder, hSupply, hKey⟩

/-- A request with something to verify, and nobody with a key by then, fails as fetching did. -/
theorem answer?_of_outage (h : HoldsKey own fetch agent? gateway found?)
    (hNeeds : (own.endpoint (surroundings.network agent?)).needsVerdict visit = true)
    (hNone : found?.or (offer? own fetch agent? (surroundings, visit)) = none) :
    ∃ error, fetch = true ∧ own.fetchRootKey (surroundings.network agent?) = .error error ∧
      (gateway.serve surroundings visit).1.answer? = some (.failure (.call error) false) := by
  rcases h.resolve_result hNeeds with ⟨holder, hHolder, -⟩ | ⟨error, -, hFetch, hError, hResult⟩
  · rw [hNone] at hHolder
    cases hHolder
  · rw [← h.needsVerdict_eq] at hNeeds
    exact ⟨error, hFetch, hError, serve_answer?_of_keyless hNeeds hResult _⟩

end HoldsKey

/-! ## Gateways that were just built -/

section

variable (list : List (Setting α κ ν)) (agentOf : α → Replica.Agent)

/-- Who answers calls, as long as the agent is the one that was set. -/
theorem build_endpoint (surroundings : Surroundings α κ ν) :
    (build (.ofList list) agentOf).endpoint surroundings =
      ((last? Setting.client? list).map surroundings.client).getD
        ((((last? Setting.agent? list).map agentOf).getD .mainnet).endpoint
          (surroundings.network (last? Setting.agent? list))) := by
  unfold endpoint build Settings.wiring
  rw [Settings.ofList_eq]
  cases last? Setting.client? list with
  | some client => rfl
  | none => cases last? Setting.agent? list <;> rfl

/-- Who verifies, at any time. -/
theorem after_build_verifier (requests : List (Surroundings α κ ν × Visit))
    (surroundings : Surroundings α κ ν) :
    ((build (.ofList list) agentOf).after requests).verifier surroundings =
      ((last? Setting.verifier? list).map surroundings.verifier).getD certificateVerifier := by
  rw [verifier_eq, wiring_after]
  show ((Settings.ofList list).verifier?.map surroundings.verifier).getD certificateVerifier = _
  rw [Settings.ofList_eq]

theorem build_anchor_of_key {key : Bytes} (hKey : last? Setting.rootKey? list = some key) :
    (build (.ofList list) agentOf).anchor = .preset key := by
  apply wiring_rootKey
  rw [Settings.ofList_eq]
  exact hKey

theorem build_anchor_of_client (hKey : last? Setting.rootKey? list = none)
    (hClient : (last? Setting.client? list).isSome = true) :
    (build (.ofList list) agentOf).anchor = .absent := by
  obtain ⟨client, hClient⟩ := Option.isSome_iff_exists.mp hClient
  unfold build Settings.wiring
  rw [Settings.ofList_eq, hKey, hClient]
  rfl

theorem holdsKey_build (hKey : last? Setting.rootKey? list = none)
    (hClient : last? Setting.client? list = none) :
    HoldsKey (((last? Setting.agent? list).map agentOf).getD .mainnet)
      ((last? Setting.fetchRootKey? list).getD false) (last? Setting.agent? list)
      (build (.ofList list) agentOf) none := by
  unfold build Settings.wiring
  rw [Settings.ofList_eq, hKey, hClient]
  refine ⟨rfl, rfl, rfl, ?_⟩
  cases last? Setting.agent? list <;> rfl

theorem after_build_of_key {key : Bytes} (hKey : last? Setting.rootKey? list = some key)
    (requests : List (Surroundings α κ ν × Visit)) :
    (build (.ofList list) agentOf).after requests = build (.ofList list) agentOf := by
  apply after_of_no_provider
  rw [build_anchor_of_key list agentOf hKey]
  rfl

theorem after_build_of_client (hKey : last? Setting.rootKey? list = none)
    (hClient : (last? Setting.client? list).isSome = true)
    (requests : List (Surroundings α κ ν × Visit)) :
    (build (.ofList list) agentOf).after requests = build (.ofList list) agentOf := by
  apply after_of_no_provider
  rw [build_anchor_of_client list agentOf hKey hClient]
  rfl

theorem after_build_anchor_of_key {key : Bytes}
    (hKey : last? Setting.rootKey? list = some key)
    (requests : List (Surroundings α κ ν × Visit)) :
    ((build (.ofList list) agentOf).after requests).anchor = .preset key := by
  rw [after_build_of_key list agentOf hKey]
  exact build_anchor_of_key list agentOf hKey

theorem after_build_anchor_of_client (hKey : last? Setting.rootKey? list = none)
    (hClient : (last? Setting.client? list).isSome = true)
    (requests : List (Surroundings α κ ν × Visit)) :
    ((build (.ofList list) agentOf).after requests).anchor = .absent := by
  rw [after_build_of_client list agentOf hKey hClient]
  exact build_anchor_of_client list agentOf hKey hClient

/-- Who answers calls after requests: the agent may have fetched a root key by then. -/
theorem after_build_endpoint (requests : List (Surroundings α κ ν × Visit))
    (surroundings : Surroundings α κ ν) :
    let agent? := last? Setting.agent? list
    let own := (agent?.map agentOf).getD .mainnet
    let found? :=
      if last? Setting.rootKey? list = none then
        holder? own ((last? Setting.fetchRootKey? list).getD false) agent? requests
      else none
    ((build (.ofList list) agentOf).after requests).endpoint surroundings =
      ((last? Setting.client? list).map surroundings.client).getD
        ((found?.getD own).endpoint (surroundings.network agent?)) := by
  intro agent? own found?
  cases hKey : last? Setting.rootKey? list with
  | some key =>
      have hFound : found? = none := if_neg (by rw [hKey]; exact Option.some_ne_none key)
      rw [after_build_of_key list agentOf hKey, build_endpoint, hFound]
      rfl
  | none =>
      cases hClient : last? Setting.client? list with
      | some client =>
          have hSome : (last? Setting.client? list).isSome = true := by rw [hClient]; rfl
          rw [after_build_of_client list agentOf hKey hSome, build_endpoint, hClient]
          rfl
      | none =>
          have hHolds := (holdsKey_build list agentOf hKey hClient).after requests
          have hFound : found? = holder? own _ agent? requests := if_pos hKey
          rw [hHolds.endpoint_eq, Option.none_or, hFound]
          rfl

end

end Installation

/--
**A gateway is what it was set up to be.** Of each kind of settings the last one counts. In every
session of the gateway, each request

* makes its calls to canisters over the client, or over the agent if there is no client, or over an
  agent for the main network if there is no agent either;
* is verified by the verifier, or by checking certificates if there is none;
* is verified with the explicit root key if there is one, and then nobody is asked for a key;
* is otherwise, without a client, verified with the key of the agent. It asks for that key if it has
  something to verify and no request before it obtained the key. The key is fetched from the replica
  first if that is set, and else it is the agent's own as it is. If fetching fails, so does the
  request;
* otherwise fails if it has something to verify. Neither the agent nor the verifier is asked.
-/
theorem built_session_wiring (list : List (Setting α κ ν)) (agentOf : α → Replica.Agent)
    (earlier later : List (Surroundings α κ ν × Visit)) (surroundings : Surroundings α κ ν)
    (visit : Visit) :
    let client? := last? Setting.client? list
    let agent? := last? Setting.agent? list
    let rootKey? := last? Setting.rootKey? list
    let fetch := (last? Setting.fetchRootKey? list).getD false
    let verifier? := last? Setting.verifier? list
    let own := (agent?.map agentOf).getD .mainnet
    let network := surroundings.network agent?
    let before? := if rootKey? = none then holder? own fetch agent? earlier else none
    let requests := earlier ++ [(surroundings, visit)]
    let endpoint :=
      (client?.map surroundings.client).getD ((before?.getD own).endpoint network)
    let verifier := (verifier?.map surroundings.verifier).getD certificateVerifier
    let needed := endpoint.needsVerdict visit
    ∃ anchor provided,
      let exchange := Gateway.serve endpoint (.ofAnchor anchor verifier) provided visit
      ((Installation.build (.ofList list) agentOf).exchanges
        (earlier ++ (surroundings, visit) :: later))[earlier.length]? = some exchange ∧
      (∀ key, rootKey? = some key →
        anchor = .preset key ∧ Call.rootKey true ∉ exchange.calls ∧
        shownKeys exchange.calls = if needed then [key] else []) ∧
      (rootKey? = none → client? = none →
        (Call.rootKey true ∈ exchange.calls ↔ needed = true ∧ before? = none) ∧
        (shownKeys exchange.calls =
          if needed then
            ((holder? own fetch agent? requests).map Replica.Agent.rootKey).toList
          else []) ∧
        (fetch = false → ∀ key ∈ shownKeys exchange.calls, key = own.rootKey) ∧
        (fetch = true → ∀ key ∈ shownKeys exchange.calls, ∃ request ∈ requests, ∃ fetched,
          own.fetchRootKey (request.1.network agent?) = .ok fetched ∧ key = fetched.rootKey) ∧
        (needed = true → holder? own fetch agent? requests = none → ∃ error,
          fetch = true ∧ own.fetchRootKey network = .error error ∧
          exchange.answer? = some
            ⟨errorResponse (.call error), none, ⟨false, none, some (.call error)⟩⟩)) ∧
      (rootKey? = none → client?.isSome = true →
        anchor = .absent ∧ Call.rootKey true ∉ exchange.calls ∧
        shownKeys exchange.calls = [] ∧
        (needed = true → exchange.answer? = some
          ⟨errorResponse .rootKeyUnavailable, none,
            ⟨false, none, some .rootKeyUnavailable⟩⟩)) := by
  intro client? agent? rootKey? fetch verifier? own network before? requests endpoint verifier
    needed
  let gateway := (Installation.build (.ofList list) agentOf).after earlier
  have hEndpoint : gateway.endpoint surroundings = endpoint :=
    Installation.after_build_endpoint list agentOf earlier surroundings
  have hVerifier : gateway.verifier surroundings = verifier :=
    Installation.after_build_verifier list agentOf earlier surroundings
  refine ⟨gateway.anchor, (gateway.keyAnswer surroundings).1, ?_⟩
  intro exchange
  have hServed : (gateway.serve surroundings visit).1 = exchange := by
    show Gateway.serve (gateway.endpoint surroundings)
      (.ofAnchor gateway.anchor (gateway.verifier surroundings)) _ visit = exchange
    rw [hEndpoint, hVerifier]
    rfl
  refine ⟨?_, ?_, ?_, ?_⟩
  · rw [Installation.exchanges_getElem?]
    exact congrArg some hServed
  · intro key hKey
    have hAnchor : gateway.anchor = .preset key :=
      Installation.after_build_anchor_of_key list agentOf hKey earlier
    have hPreset := Installation.serve_of_preset hAnchor surroundings visit
    rw [hServed, hEndpoint] at hPreset
    exact ⟨hAnchor, hPreset⟩
  · intro hKey hClient
    have hHolds : Installation.HoldsKey own fetch agent? gateway
        (holder? own fetch agent? earlier) :=
      (Installation.holdsKey_build list agentOf hKey hClient).after earlier
    have hBefore : before? = holder? own fetch agent? earlier := if_pos hKey
    have hNeeded : needed = (own.endpoint network).needsVerdict visit := by
      show endpoint.needsVerdict visit = _
      rw [← hEndpoint]
      exact hHolds.needsVerdict_eq surroundings visit
    have hRequests : holder? own fetch agent? requests =
        (holder? own fetch agent? earlier).or (offer? own fetch agent? (surroundings, visit)) :=
      holder?_append own fetch agent? earlier (surroundings, visit)
    rw [← hServed, hNeeded, hBefore, hRequests]
    refine ⟨?_, hHolds.shownKeys_eq surroundings visit, ?_, ?_, hHolds.answer?_of_outage⟩
    · rw [← Installation.askedForKey_iff]
      exact hHolds.asks_iff
    · intro hFetch key hMem
      obtain ⟨request, -, holder, hSupply, rfl⟩ := hHolds.exists_supply_of_mem_shownKeys hMem
      rw [hFetch] at hSupply
      cases hSupply
      rfl
    · intro hFetch key hMem
      obtain ⟨request, hRequest, holder, hSupply, rfl⟩ :=
        hHolds.exists_supply_of_mem_shownKeys hMem
      rw [hFetch] at hSupply
      exact ⟨request, hRequest, holder, fetchRootKey_of_supply hSupply, rfl⟩
  · intro hKey hClient
    have hAnchor : gateway.anchor = .absent :=
      Installation.after_build_anchor_of_client list agentOf hKey hClient earlier
    have hAbsent := Installation.serve_of_absent hAnchor surroundings visit
    rw [hServed, hEndpoint] at hAbsent
    exact ⟨hAnchor, hAbsent⟩

/-- Everybody answers with a page that has to be verified. The replica's root key is sometimes out
of reach, and the verifiers accept everything. -/
def Surroundings.ofPage (rootKey? : Option Bytes) : Surroundings Nat Nat Nat where
  client := fun _ => .constant (.ok ⟨200, [], [112], none, none⟩) (.error .rootKeyUnavailable)
  network := fun _ => {
    query := fun _ _ _ => .reply (.replied
      [0x44, 0x49, 0x44, 0x4c, 2, 0x6d, 0x7b, 0x6c, 3, 0xa2, 0xf5, 0xed, 0x88, 4, 0, 0xc6, 0xa4,
        0xa1, 0x98, 6, 0, 0x9a, 0xa1, 0xb2, 0xf9, 0xc, 0x7a, 1, 1, 1, 112, 0, 0xc8, 0])
    update := fun _ _ _ => .failure .cbor
    status := .ok rootKey? }
  verifier := fun _ _ _ _ _ => .ok ⟨2, none⟩

/-- An explicit key that overrides another, an agent that cannot fetch its key at first, and a
client beside an agent. -/
theorem built_session_wiring_of_pages :
    let outage := (Surroundings.ofPage none, Visit.frontPage false)
    let recovery := (Surroundings.ofPage (some [9]), Visit.frontPage false)
    let agentOf := fun handle => if handle = 8 then Replica.Agent.mainnet else ⟨[7]⟩
    let explicit : List (Setting Nat Nat Nat) :=
      [.rootKey [1], .agent 8, .fetchRootKey true, .rootKey [2]]
    let fetching : List (Setting Nat Nat Nat) :=
      [.agent 7, .fetchRootKey false, .agent 8, .fetchRootKey true, .verifier 1]
    let beside : List (Setting Nat Nat Nat) := [.client 1, .agent 7]
    (∃ exchange,
      ((Installation.build (.ofList explicit) agentOf).exchanges [outage])[0]? = some exchange ∧
      Call.rootKey true ∉ exchange.calls ∧ shownKeys exchange.calls = [[2]]) ∧
    (∃ first second,
      ((Installation.build (.ofList fetching) agentOf).exchanges [outage, recovery])[0]? =
        some first ∧
      ((Installation.build (.ofList fetching) agentOf).exchanges [outage, recovery])[1]? =
        some second ∧
      first.answer? = some ⟨errorResponse (.call .noRootKey), none,
        ⟨false, none, some (.call .noRootKey)⟩⟩ ∧
      Call.rootKey true ∈ second.calls ∧ shownKeys second.calls = [[9]]) ∧
    ∃ exchange,
      ((Installation.build (.ofList beside) agentOf).exchanges [recovery])[0]? = some exchange ∧
      shownKeys exchange.calls = [] ∧
      exchange.answer? = some ⟨errorResponse .rootKeyUnavailable, none,
        ⟨false, none, some .rootKeyUnavailable⟩⟩ := by
  intro outage recovery agentOf explicit fetching beside
  refine ⟨?_, ?_, ?_⟩
  · obtain ⟨_, _, hServed, hKey, -, -⟩ :=
      built_session_wiring explicit agentOf [] [] outage.1 outage.2
    obtain ⟨-, hNobody, hShown⟩ := hKey [2] rfl
    exact ⟨_, hServed, hNobody, hShown⟩
  · obtain ⟨_, _, hFirst, -, hOutage, -⟩ :=
      built_session_wiring fetching agentOf [] [recovery] outage.1 outage.2
    obtain ⟨_, _, hSecond, -, hRecovery, -⟩ :=
      built_session_wiring fetching agentOf [outage] [] recovery.1 recovery.2
    obtain ⟨error, -, hError, hAnswer⟩ := (hOutage rfl rfl).2.2.2.2 rfl rfl
    obtain ⟨hAsks, hShown, -⟩ := hRecovery rfl rfl
    cases hError
    exact ⟨_, _, hFirst, hSecond, hAnswer, hAsks.mpr ⟨rfl, rfl⟩, hShown⟩
  · obtain ⟨_, _, hServed, -, -, hBeside⟩ :=
      built_session_wiring beside agentOf [] [] recovery.1 recovery.2
    obtain ⟨-, -, hShown, hAnswer⟩ := hBeside rfl rfl
    exact ⟨_, hServed, hShown, hAnswer rfl⟩

end CanisterGateway.Gateway
