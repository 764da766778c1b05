import CanisterGateway.Replica.Agent

/-!
# Putting a gateway together

A gateway is set up by settings, each of which overrides earlier ones of its kind. They say who
makes the calls to canisters, where the root key comes from, and who verifies responses.

Calls are made by a custom client if there is one, and otherwise over an agent: the one that was
given, or one for the main network. The root key is an explicit one if there is one, and otherwise
the agent's. A custom client has no root key to offer, even if an agent was given too.

Agents, clients and verifiers are known by handles here, so that it can be said which one is
asked.

## Main results

* `wiring_rootKey` — an explicit key is the anchor, whatever else is set.
* `askedForKey_iff` — the calls of a request tell whether the provider of the root key was asked.
-/

namespace CanisterGateway.Gateway

variable {α κ ν : Type}

/-! ## Settings -/

/-- What can be set: an agent, a client, a root key, whether the root key is fetched from the
replica, and a verifier. -/
inductive Setting (α κ ν : Type)
  | agent (agent : α)
  | client (client : κ)
  | rootKey (key : Bytes)
  | fetchRootKey (fetch : Bool)
  | verifier (verifier : ν)

/-- The settings in force. -/
structure Settings (α κ ν : Type) where
  agent? : Option α
  client? : Option κ
  rootKey? : Option Bytes
  fetchRootKey : Bool
  verifier? : Option ν

namespace Settings

/-- Nothing set. -/
def initial : Settings α κ ν := ⟨none, none, none, false, none⟩

/-- Overrides one setting. -/
def apply (settings : Settings α κ ν) : Setting α κ ν → Settings α κ ν
  | .agent agent => { settings with agent? := some agent }
  | .client client => { settings with client? := some client }
  | .rootKey key => { settings with rootKey? := some key }
  | .fetchRootKey fetch => { settings with fetchRootKey := fetch }
  | .verifier verifier => { settings with verifier? := some verifier }

/-- The settings in force after all of a list. -/
def ofList (list : List (Setting α κ ν)) : Settings α κ ν :=
  list.foldl apply initial

end Settings

/-! ## Wiring -/

/-- Who makes the calls to canisters. -/
inductive Route (α κ : Type)
  | client (client : κ)
  /-- An agent, or one for the main network if none is named. -/
  | agent (agent? : Option α)

/-- Where the root key comes from. -/
inductive KeySource
  | explicit (key : Bytes)
  | agent (fetch : Bool)
  | nowhere
  deriving DecidableEq

/-- Who does what. Without a verifier, certificates are checked. -/
structure Wiring (α κ ν : Type) where
  route : Route α κ
  keySource : KeySource
  verifier? : Option ν

/-- Who does what under given settings. -/
def Settings.wiring (settings : Settings α κ ν) : Wiring α κ ν where
  route :=
    match settings.client? with
    | some client => .client client
    | none => .agent settings.agent?
  keySource :=
    match settings.rootKey?, settings.client? with
    | some key, _ => .explicit key
    | none, none => .agent settings.fetchRootKey
    | none, some _ => .nowhere
  verifier? := settings.verifier?

/-- The root key at the beginning. -/
def KeySource.anchor : KeySource → TrustAnchor
  | explicit key => .preset key
  | agent _ => .lazy
  | nowhere => .absent

theorem wiring_rootKey {settings : Settings α κ ν} {key : Bytes}
    (h : settings.rootKey? = some key) :
    settings.wiring.keySource.anchor = .preset key := by
  simp only [Settings.wiring, h, KeySource.anchor]

/-! ## A gateway at work -/

/-- How those behind the handles answer during one request. Without a name, `network` is the main
network. -/
structure Surroundings (α κ ν : Type) where
  client : κ → Endpoint
  network : Option α → Replica.Network
  verifier : ν → Verifier

/-- A gateway that was put together: its wiring, what it knows of the root key, and the agent,
should calls be made over one. -/
structure Installation (α κ ν : Type) where
  wiring : Wiring α κ ν
  anchor : TrustAnchor
  agent : Replica.Agent

namespace Installation

/-- A gateway before its first request, where `agentOf` tells the agents behind the handles. -/
def build (settings : Settings α κ ν) (agentOf : α → Replica.Agent) : Installation α κ ν where
  wiring := settings.wiring
  anchor := settings.wiring.keySource.anchor
  agent :=
    match settings.wiring.route with
    | .agent (some agent) => agentOf agent
    | _ => .mainnet

/-- Who answers calls to canisters. -/
def endpoint (gateway : Installation α κ ν) (surroundings : Surroundings α κ ν) : Endpoint :=
  match gateway.wiring.route with
  | .client client => surroundings.client client
  | .agent agent? => gateway.agent.endpoint (surroundings.network agent?)

/-- What the provider of the root key says if it is asked, and the agent after that. -/
def keyAnswer (gateway : Installation α κ ν) (surroundings : Surroundings α κ ν) :
    KeyResult × Replica.Agent :=
  match gateway.wiring.route, gateway.wiring.keySource with
  | .agent agent?, .agent fetch =>
    gateway.agent.provideRootKey fetch (surroundings.network agent?)
  | _, _ => (.error .rootKeyUnavailable, gateway.agent)

/-- Who verifies responses. -/
def verifier (gateway : Installation α κ ν) (surroundings : Surroundings α κ ν) : Verifier :=
  match gateway.wiring.verifier? with
  | some verifier => surroundings.verifier verifier
  | none => certificateVerifier

/-- What the gateway's requests share. -/
def context (gateway : Installation α κ ν) (surroundings : Surroundings α κ ν) : Context :=
  .ofAnchor gateway.anchor (gateway.verifier surroundings)

/-- Whether the provider of the root key was asked. -/
def askedForKey (calls : List Call) : Bool :=
  calls.any fun
    | .rootKey asked => asked
    | _ => false

theorem askedForKey_iff {calls : List Call} :
    askedForKey calls = true ↔ Call.rootKey true ∈ calls := by
  unfold askedForKey
  rw [List.any_eq_true]
  constructor
  · rintro ⟨call, hCall, hAsked⟩
    cases call with
    | rootKey asked =>
        rw [show asked = true from hAsked] at hCall
        exact hCall
    | _ => cases hAsked
  · intro hCall
    exact ⟨_, hCall, rfl⟩

/-- Serves a request. -/
def serve (gateway : Installation α κ ν) (surroundings : Surroundings α κ ν) (visit : Visit) :
    Exchange × Installation α κ ν :=
  let (answer, agent) := gateway.keyAnswer surroundings
  let exchange :=
    Gateway.serve (gateway.endpoint surroundings) (gateway.context surroundings) answer visit
  (exchange,
    { gateway with
      anchor := exchange.anchor
      agent := if askedForKey exchange.calls then agent else gateway.agent })

end Installation
end CanisterGateway.Gateway
