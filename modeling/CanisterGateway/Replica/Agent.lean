import CanisterGateway.Canister.Interface
import CanisterGateway.Certification.Certificate
import CanisterGateway.Gateway.Exchange
import CanisterGateway.Replica.QueryBody

/-!
# Agents

An agent calls canisters over a replica. It trusts one root key, which is that of the main network
unless it was given another. Answers to queries are not signed as a whole. Answers to updates come
in a certificate, which has to be signed with the trusted key.

An agent that trusts the key of the main network can be told to fetch the replica's own key
instead, which is how a local network is trusted. Once that has happened, it is not done again.
-/

namespace CanisterGateway.Replica

/-- The root key of the main network. -/
def mainnetKey : Bytes :=
  Certification.keyHeader ++
    [0x81, 0x4c, 0x0e, 0x6e, 0xc7, 0x1f, 0xab, 0x58, 0x3b, 0x08, 0xbd, 0x81, 0x37, 0x3c, 0x25, 0x5c,
      0x3c, 0x37, 0x1b, 0x2e, 0x84, 0x86, 0x3c, 0x98, 0xa4, 0xf1, 0xe0, 0x8b, 0x74, 0x23, 0x5d, 0x14,
      0xfb, 0x5d, 0x9c, 0x0c, 0xd5, 0x46, 0xd9, 0x68, 0x5f, 0x91, 0x3a, 0x0c, 0x0b, 0x2c, 0xc5, 0x34,
      0x15, 0x83, 0xbf, 0x4b, 0x43, 0x92, 0xe4, 0x67, 0xdb, 0x96, 0xd6, 0x5b, 0x9b, 0xb4, 0xcb, 0x71,
      0x71, 0x12, 0xf8, 0x47, 0x2e, 0x0d, 0x5a, 0x4d, 0x14, 0x50, 0x5f, 0xfd, 0x74, 0x84, 0xb0, 0x12,
      0x91, 0x09, 0x1c, 0x5f, 0x87, 0xb9, 0x88, 0x83, 0x46, 0x3f, 0x98, 0x09, 0x1a, 0x0b, 0xaa, 0xae]

/-! ## What replicas answer -/

/-- An answer to a query. -/
inductive QueryAnswer
  /-- The body of a response, still to be read. -/
  | body (bytes : Bytes)
  | reply (reply : QueryBody.Reply)
  | failure (error : CallError)

/-- What a certificate says about an update call. -/
inductive UpdateOutcome
  | replied (argument : Bytes)
  | rejected (code : Nat) (message : String)

/-- An answer to an update call. -/
inductive UpdateAnswer
  | certified (signer : Bytes) (outcome : UpdateOutcome)
  | rejected (code : Nat) (message : String) (errorCode? : Option String)
  | failure (error : CallError)

/-- How a replica answers: calls of a method of a canister with an argument, and questions for its
status, which may name its root key. -/
structure Network where
  query : Principal → (method : String) → (argument : Bytes) → QueryAnswer
  update : Principal → (method : String) → (argument : Bytes) → UpdateAnswer
  status : Except CallError (Option Bytes)

/-! ## Reading answers -/

/-- The response that a reply holds. -/
def readReply (argument : Bytes) : Except CallError Canister.Response :=
  (Canister.Response.ofBytes argument).mapError .candid

/-- A rejection without a certificate. -/
def readRejection (code : Nat) (message : String) (errorCode? : Option String) : CallError :=
  match RejectCode.ofNat? code with
  | some code => .rejected false ⟨code, message, errorCode?⟩
  | none => .cbor

/-- The response to a query. -/
def QueryAnswer.read : QueryAnswer → Except CallError Canister.Response
  | failure error => .error error
  | reply (.replied argument) => readReply argument
  | reply (.rejected code message errorCode?) => .error (readRejection code message errorCode?)
  | body bytes =>
    match QueryBody.Reply.ofBytes? bytes with
    | some (.replied argument) => readReply argument
    | some (.rejected code message errorCode?) => .error (readRejection code message errorCode?)
    | none => .error .cbor

/-- Checks that a certificate that was signed with one key is trusted by someone who trusts
another. -/
def checkSigner (trusted signer : Bytes) : Except CallError Unit :=
  match Certification.keyElement trusted with
  | .error (.keyLength actual) => .error (.keyLength Certification.keyLength actual)
  | .error (.keyHeader actual) => .error (.keyHeader Certification.keyHeader actual)
  | .error _ => .error .certificateInvalid
  | .ok _ => if trusted = signer then .ok () else .error .certificateInvalid

/-- What a certificate says, as a response. -/
def UpdateOutcome.read : UpdateOutcome → Except CallError Canister.Response
  | replied argument => readReply argument
  | rejected code message =>
    match RejectCode.ofNat? code with
    | some code => .error (.rejected true ⟨code, message, none⟩)
    | none => .error (.rejectCode code)

/-- The response to an update call, as far as the trusted key vouches for it. -/
def UpdateAnswer.read (trusted : Bytes) : UpdateAnswer → Except CallError Canister.Response
  | failure error => .error error
  | rejected code message errorCode? => .error (readRejection code message errorCode?)
  | certified signer outcome =>
    match checkSigner trusted signer with
    | .error error => .error error
    | .ok () => outcome.read

/-! ## Agents -/

/-- An agent with the root key that it trusts. -/
structure Agent where
  rootKey : Bytes
  deriving DecidableEq

namespace Agent

/-- The agent that trusts the main network. -/
def mainnet : Agent := ⟨mainnetKey⟩

/-- Asks a canister for a response with a query. -/
def query (network : Network) (canister : Principal) (request : Canister.Request) :
    Except CallError Canister.Response :=
  (network.query canister Canister.queryMethod request.queryArgument).read

/-- Asks a canister for a response with an update call. -/
def update (agent : Agent) (network : Network) (canister : Principal)
    (request : Canister.Request) : Except CallError Canister.Response :=
  (network.update canister Canister.updateMethod request.updateArgument).read agent.rootKey

/-- Makes calls to canisters over an agent. -/
def endpoint (agent : Agent) (network : Network) : Gateway.Endpoint where
  query canister request := (query network canister request).mapError .call
  update canister request := (agent.update network canister request).mapError .call

/-- Whether fetching the root key asks the replica. -/
def asksForKey (agent : Agent) (fetch : Bool) : Bool :=
  fetch && agent.rootKey = mainnetKey

/-- The agent after it fetched the replica's root key, if it still trusts the main network. -/
def fetchRootKey (agent : Agent) (network : Network) : Except CallError Agent :=
  if agent.rootKey = mainnetKey then
    match network.status with
    | .error error => .error error
    | .ok none => .error .noRootKey
    | .ok (some key) => .ok ⟨key⟩
  else .ok agent

/-- The root key for verifications and the agent after providing it. -/
def provideRootKey (agent : Agent) (fetch : Bool) (network : Network) :
    Gateway.KeyResult × Agent :=
  if fetch then
    match agent.fetchRootKey network with
    | .error error => (.error (.call error), agent)
    | .ok fetched => (.ok fetched.rootKey, fetched)
  else (.ok agent.rootKey, agent)

end Agent
end CanisterGateway.Replica
