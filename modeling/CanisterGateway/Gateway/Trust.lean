import CanisterGateway.Gateway.Error

/-!
# The bounds of trust

A response is trusted if its certificate names the canister, is signed below the root key, and is at
most five minutes away from the time of verification. Version one certifies neither status nor
headers, so it is not enough.
-/

namespace CanisterGateway.Gateway

/-- The greatest distance between a certificate's time and the time of its verification, in
nanoseconds. -/
def maxCertificateAge : Nat := 300000000000

/-- The least version of certification that is accepted. -/
def leastCertificationVersion : UInt8 := 2

/-- The address of the boundary node that is used unless another is named. -/
def defaultBoundaryNode : String := "https://icp-api.io"

/-- The fixed bounds for a canister. -/
def trustBounds (canister : Principal) (rootKey : Bytes) : Certification.TrustBounds where
  canisterId := canister.bytes
  rootKey := rootKey
  timeDistance := maxCertificateAge
  leastVersion := leastCertificationVersion

/-- Decides whether a response is the certified answer to a request, within bounds and at a time in
nanoseconds since the epoch. -/
abbrev Verifier :=
  Canister.Request → Canister.Response → Certification.TrustBounds → (now : Nat) →
    Except (Certification.Stop Error) Certification.Acceptance

/-- The verifier that checks certificates. -/
def certificateVerifier : Verifier := fun request response bounds now =>
  (Certification.verify request response bounds now).mapError fun
    | .fault fault => .fault (.verification fault)
    | .aborted => .aborted

end CanisterGateway.Gateway
