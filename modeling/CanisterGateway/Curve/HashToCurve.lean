import CanisterGateway.Curve.Isogeny
import CanisterGateway.Hash.Sha256

/-!
# Hashing to the curve

A message is expanded to 128 bytes, which make two field elements; each is sent to the auxiliary
curve and from there to the curve, and the sum of the two points is multiplied into the group of
prime order. The domain tag names the suite: basic signatures in the first group, SHA-256, the
simplified map for curves with both coefficients nonzero.
-/

namespace CanisterGateway.Curve

/-- The domain separation tag of the signature scheme, with its length as a last byte. -/
def domainTag : Bytes :=
  let tag := Bytes.ofText "BLS_SIG_BLS12381G1_XMD:SHA-256_SSWU_RO_NUL_"
  tag ++ [UInt8.ofNat tag.length]

/-- Chains `count` further digests, each of the first digest combined with the one before. -/
def chainDigests (first : Bytes) : (count index : Nat) → (last : Bytes) → Bytes
  | 0, _, _ => []
  | count + 1, index, last =>
    let next := Hash.Sha256.digest
      (List.zipWith (· ^^^ ·) first last ++ [UInt8.ofNat index] ++ domainTag)
    next ++ chainDigests first count (index + 1) next

/-- Expands a message to 128 uniform bytes. -/
def expandMessage (message : Bytes) : Bytes :=
  let first := Hash.Sha256.digest
    (List.replicate 64 0 ++ message ++ Bytes.ofNatBE 2 128 ++ [0] ++ domainTag)
  chainDigests first 4 1 (List.replicate 32 0)

/-- The two field elements of a message. -/
def hashToField (message : Bytes) : Fp × Fp :=
  let bytes := expandMessage message
  (Fin.ofNat modulus (Bytes.toNatBE (bytes.take 64)),
    Fin.ofNat modulus (Bytes.toNatBE (bytes.drop 64)))

/-- Sends a field element to the auxiliary curve: of two candidate abscissas at least one belongs to
a point, and the ordinate takes the parity of the element. -/
def mapToAuxiliary (u : Fp) : Fp × Fp :=
  let z : Fp := 11
  let zuu := z * (u * u)
  let denominator := zuu * zuu + zuu
  let x1 := if denominator = 0 then Isogeny.b * Fp.inverse (z * Isogeny.a)
    else -Isogeny.b * Fp.inverse Isogeny.a * (1 + Fp.inverse denominator)
  let rhs (x : Fp) : Fp := (x * x + Isogeny.a) * x + Isogeny.b
  let withParity (y : Fp) : Fp := if y.val % 2 = u.val % 2 then y else -y
  match Fp.sqrt? (rhs x1) with
  | some y => (x1, withParity y)
  | none =>
    let x2 := zuu * x1
    (x2, withParity ((Fp.sqrt? (rhs x2)).getD 0))

/-- The point of the first group that a message hashes to. -/
def hashToG1 (message : Bytes) : Point Fp :=
  let (u, v) := hashToField message
  let (ux, uy) := mapToAuxiliary u
  let (vx, vy) := mapToAuxiliary v
  Point.multiple (parameter + 1) ((Isogeny.image ux uy).add (Isogeny.image vx vy))

end CanisterGateway.Curve
