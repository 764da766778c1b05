import CanisterGateway.Curve.Base

/-!
# The extension tower

The pairing takes its values in an extension of degree twelve, built in three steps:

* degree two, `u² = -1`;
* degree six, `v³ = 1 + u`;
* degree twelve, `w² = v`.

An element of the last field is also a polynomial in `w` with six coefficients of degree two, and
raising to the power of the prime conjugates the coefficients and scales them by powers of one
constant.
-/

namespace CanisterGateway.Curve

/-! ## Degree two -/

/-- `re + im·u` with `u² = -1`. -/
structure Fp2 where
  re : Fp
  im : Fp
  deriving DecidableEq

namespace Fp2

instance : Zero Fp2 := ⟨⟨0, 0⟩⟩
instance : One Fp2 := ⟨⟨1, 0⟩⟩
instance : Add Fp2 := ⟨fun a b => ⟨a.re + b.re, a.im + b.im⟩⟩
instance : Sub Fp2 := ⟨fun a b => ⟨a.re - b.re, a.im - b.im⟩⟩
instance : Neg Fp2 := ⟨fun a => ⟨-a.re, -a.im⟩⟩

instance : Mul Fp2 := ⟨fun a b =>
  let low := a.re * b.re
  let high := a.im * b.im
  ⟨low - high, (a.re + a.im) * (b.re + b.im) - low - high⟩⟩

/-- Negates the coefficient of `u`; this is the power by the prime. -/
def conjugate (a : Fp2) : Fp2 := ⟨a.re, -a.im⟩

/-- Multiplies by an element of the base field. -/
def scale (k : Fp) (a : Fp2) : Fp2 := ⟨k * a.re, k * a.im⟩

/-- The inverse, and zero for zero. -/
def inverse (a : Fp2) : Fp2 :=
  (a.conjugate).scale (Fp.inverse (a.re * a.re + a.im * a.im))

/-- Multiplies by `1 + u`, the cube of `v`. -/
def mulNonresidue (a : Fp2) : Fp2 := ⟨a.re - a.im, a.re + a.im⟩

/-- A square root, if there is one: with a root `s` of the norm, the square of the root's real
part is half of `re + s` or half of `re - s`. -/
def sqrt? (a : Fp2) : Option Fp2 :=
  if a.im = 0 then
    match Fp.sqrt? a.re with
    | some s => some ⟨s, 0⟩
    | none => (Fp.sqrt? (-a.re)).map fun s => ⟨0, s⟩
  else do
    let s ← Fp.sqrt? (a.re * a.re + a.im * a.im)
    let half := Fp.inverse 2
    let c ← (Fp.sqrt? ((a.re + s) * half)).or (Fp.sqrt? ((a.re - s) * half))
    some ⟨c, a.im * half * Fp.inverse c⟩

/-- Whether the element exceeds its own negative, the coefficient of `u` deciding first. -/
def isLarger (a : Fp2) : Bool :=
  Fp.isLarger a.im || (a.im = 0 && Fp.isLarger a.re)

end Fp2

/-! ## Degree six -/

/-- `c0 + c1·v + c2·v²` with `v³ = 1 + u`. -/
structure Fp6 where
  c0 : Fp2
  c1 : Fp2
  c2 : Fp2
  deriving DecidableEq

namespace Fp6

instance : Zero Fp6 := ⟨⟨0, 0, 0⟩⟩
instance : One Fp6 := ⟨⟨1, 0, 0⟩⟩
instance : Add Fp6 := ⟨fun a b => ⟨a.c0 + b.c0, a.c1 + b.c1, a.c2 + b.c2⟩⟩
instance : Sub Fp6 := ⟨fun a b => ⟨a.c0 - b.c0, a.c1 - b.c1, a.c2 - b.c2⟩⟩
instance : Neg Fp6 := ⟨fun a => ⟨-a.c0, -a.c1, -a.c2⟩⟩

instance : Mul Fp6 := ⟨fun a b =>
  let t0 := a.c0 * b.c0
  let t1 := a.c1 * b.c1
  let t2 := a.c2 * b.c2
  ⟨t0 + ((a.c1 + a.c2) * (b.c1 + b.c2) - t1 - t2).mulNonresidue,
    (a.c0 + a.c1) * (b.c0 + b.c1) - t0 - t1 + t2.mulNonresidue,
    (a.c0 + a.c2) * (b.c0 + b.c2) - t0 - t2 + t1⟩⟩

/-- Multiplies by `v`. -/
def shift (a : Fp6) : Fp6 := ⟨a.c2.mulNonresidue, a.c0, a.c1⟩

/-- The inverse, and zero for zero. -/
def inverse (a : Fp6) : Fp6 :=
  let d0 := a.c0 * a.c0 - (a.c1 * a.c2).mulNonresidue
  let d1 := (a.c2 * a.c2).mulNonresidue - a.c0 * a.c1
  let d2 := a.c1 * a.c1 - a.c0 * a.c2
  let norm := a.c0 * d0 + (a.c2 * d1 + a.c1 * d2).mulNonresidue
  let k := norm.inverse
  ⟨k * d0, k * d1, k * d2⟩

end Fp6

/-! ## Degree twelve -/

/-- `c0 + c1·w` with `w² = v`. -/
structure Fp12 where
  c0 : Fp6
  c1 : Fp6
  deriving DecidableEq

namespace Fp12

instance : One Fp12 := ⟨⟨1, 0⟩⟩

instance : Mul Fp12 := ⟨fun a b =>
  let low := a.c0 * b.c0
  let high := a.c1 * b.c1
  ⟨low + high.shift, (a.c0 + a.c1) * (b.c0 + b.c1) - low - high⟩⟩

/-- Negates the coefficient of `w`; this is the power by the sixth power of the prime. -/
def conjugate (a : Fp12) : Fp12 := ⟨a.c0, -a.c1⟩

/-- The inverse, and zero for zero. -/
def inverse (a : Fp12) : Fp12 :=
  let k := (a.c0 * a.c0 - (a.c1 * a.c1).shift).inverse
  ⟨a.c0 * k, -(a.c1 * k)⟩

/-- The powers zero to five of `(1 + u)` to the sixth part of the prime less one. -/
def frobeniusConstants : Fp2 × Fp2 × Fp2 × Fp2 × Fp2 :=
  let g := power 1 (⟨1, 1⟩ : Fp2) ((modulus - 1) / 6)
  let g2 := g * g
  (g, g2, g2 * g, g2 * g2, g2 * g2 * g)

/-- The power by the prime. -/
def frobenius (a : Fp12) : Fp12 :=
  let (g1, g2, g3, g4, g5) := frobeniusConstants
  ⟨⟨a.c0.c0.conjugate, a.c0.c1.conjugate * g2, a.c0.c2.conjugate * g4⟩,
    ⟨a.c1.c0.conjugate * g1, a.c1.c1.conjugate * g3, a.c1.c2.conjugate * g5⟩⟩

end Fp12
end CanisterGateway.Curve
