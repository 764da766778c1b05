import CanisterGateway.Curve.HashToCurve
import CanisterGateway.Curve.Pairing

/-!
# Signatures

A signature is a point of the first group, a public key one of the second. A signature fits a
message and a key if pairing it with the generator gives the same as pairing the message's hash
with the key.
-/

namespace CanisterGateway.Curve.Signature

/-- Whether the compressed signature on the message was made with the secret of the compressed
public key. Bytes that are no points of the two groups verify nothing. -/
def verify (signature message publicKey : Bytes) : Bool :=
  match decodeG1? signature, decodeG2? publicKey with
  | some s, some key => Pairing.agree s generatorG2 (hashToG1 message) key
  | _, _ => false

end CanisterGateway.Curve.Signature
