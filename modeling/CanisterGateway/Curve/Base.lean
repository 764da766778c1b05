import CanisterGateway.Bytes.Basic

/-!
# The base field of the signature curve

Subnet signatures live on the pairing-friendly curve BLS12-381. Its base field is the integers
modulo a prime of 381 bits; a residue is a `Fin`, whose arithmetic is that of the natural numbers
reduced by the prime.

The prime is three modulo four, so a square root, where there is one, is a single power.
-/

namespace CanisterGateway.Curve

/-- The prime of the base field. -/
def modulus : Nat :=
  0x1a0111ea397fe69a4b1ba7b6434bacd764774b84f38512bf6730d2a0f6b0f6241eabfffeb153ffffb9feffffffffaaab

/-- The prime order of the groups that signatures and keys belong to. -/
def groupOrder : Nat :=
  0x73eda753299d7d483339d80809a1d80553bda402fffe5bfeffffffff00000001

/-- The absolute value of the (negative) parameter that generates the curve family. -/
def parameter : Nat := 0xd201000000010000

instance : @NeZero Nat Zero.ofOfNat0 modulus := ⟨by decide⟩

/-- A residue modulo the base field's prime. -/
abbrev Fp := Fin modulus

instance : Zero Fp := ⟨0⟩
instance : One Fp := ⟨1⟩

/-- A power by repeated squaring. -/
def power {F : Type} [Mul F] (one : F) (a : F) (n : Nat) : F :=
  if n = 0 then one
  else
    let half := power one (a * a) (n / 2)
    if n % 2 = 1 then half * a else half

namespace Fp

/-- The inverse, and zero for zero: the power by the prime less two. -/
def inverse (a : Fp) : Fp :=
  power 1 a (modulus - 2)

/-- A square root, if there is one. -/
def sqrt? (a : Fp) : Option Fp :=
  let root := power 1 a ((modulus + 1) / 4)
  if root * root = a then some root else none

/-- Whether the residue exceeds its own negative. -/
def isLarger (a : Fp) : Bool :=
  2 * a.val > modulus

/-- The residue written by bytes, most significant first, unless it is not reduced. -/
def ofBytes? (bytes : Bytes) : Option Fp :=
  let n := bytes.toNatBE
  if h : n < modulus then some ⟨n, h⟩ else none

end Fp
end CanisterGateway.Curve
