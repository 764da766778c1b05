import CanisterGateway.Curve.Point

/-!
# The pairing

For points `P` of the first and `Q` of the second group the pairing is computed by a Miller loop
over the bits of the curve parameter, followed by one power that kills everything but the roots of
unity of the group order. The lines of the loop are taken up to factors that this power kills, so
the loop needs no inverse; for the same reason the sign of the parameter does not matter when only
equality with one is asked.
-/

namespace CanisterGateway.Curve.Pairing

/-- The value at `(px, py)` of a line with the given constant, slope and scale. -/
def lineValue (constant slope scale : Fp2) (px py : Fp) : Fp12 :=
  ⟨⟨constant, (-slope).scale px, 0⟩, ⟨0, scale.scale py, 0⟩⟩

/-- The tangent at `t`. -/
def tangent (t : Point Fp2) (px py : Fp) : Fp12 :=
  let xx := t.x * t.x
  let yy := t.y * t.y
  let zz := t.z * t.z
  let slope := xx + xx + xx
  let yz := t.y * (zz * t.z)
  lineValue (slope * t.x - yy - yy) (slope * zz) (yz + yz) px py

/-- The line through `t` and the affine point `(qx, qy)`. -/
def chord (t : Point Fp2) (qx qy : Fp2) (px py : Fp) : Fp12 :=
  let zz := t.z * t.z
  let rise := t.y - qy * (zz * t.z)
  let run := t.z * (t.x - qx * zz)
  lineValue (rise * qx - qy * run) rise run px py

/-- The bits of the curve parameter below the leading one, most significant first. -/
def loopBits : List Bool :=
  (Bytes.ofNatBE 8 parameter).flatMap (fun b =>
    [7, 6, 5, 4, 3, 2, 1, 0].map fun i => b.toNat.testBit i) |>.drop 1

/-- The Miller loop for affine points. -/
def millerLoop (px py : Fp) (qx qy : Fp2) : Fp12 :=
  let start : Fp12 × Point Fp2 := (1, .affine qx qy)
  let (f, _) := loopBits.foldl (fun (f, t) bit =>
    let f := f * f * tangent t px py
    let t := t.double
    if bit then (f * chord t qx qy px py, t.add (.affine qx qy)) else (f, t)) start
  f

/-- The power by the curve parameter, for elements whose inverse is their conjugate. -/
def powerParameter (f : Fp12) : Fp12 :=
  (power 1 f parameter).conjugate

/-- The power that leaves the roots of unity of the group order: first by
`(p⁶ - 1)(p² + 1)`, then by three times `(p⁴ - p² + 1) / r`, which for the parameter `x` is
`(x - 1)²(x + p)(x² + p² - 1) + 3`. -/
def finalPower (f : Fp12) : Fp12 :=
  let e := f.conjugate * f.inverse
  let e := e.frobenius.frobenius * e
  let a := powerParameter e * e.conjugate
  let b := powerParameter a * a.conjugate
  let c := powerParameter b * b.frobenius
  let d := powerParameter (powerParameter c) * c.frobenius.frobenius * c.conjugate
  d * (e * e * e)

/-- The loop for points of the two groups; one if either is neutral. -/
def miller (p : Point Fp) (q : Point Fp2) : Fp12 :=
  if p.isNeutral || q.isNeutral then 1
  else
    let pz := Fp.inverse p.z
    let qz := q.z.inverse
    let pz2 := pz * pz
    let qz2 := qz * qz
    millerLoop (p.x * pz2) (p.y * (pz2 * pz)) (q.x * qz2) (q.y * (qz2 * qz))

/-- Whether two pairings have the same value. -/
def agree (p : Point Fp) (q : Point Fp2) (p' : Point Fp) (q' : Point Fp2) : Bool :=
  finalPower (miller p.negate q * miller p' q') = 1

end CanisterGateway.Curve.Pairing
