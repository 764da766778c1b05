import CanisterGateway.Curve.Tower

/-!
# Points of the two curves

Both groups of the pairing are groups of points `y² = x³ + b`: over the base field with `b = 4`,
and over the quadratic extension with `b = 4(1 + u)`. Points are kept in Jacobian coordinates, where
`(x, y, z)` stands for `(x/z², y/z³)` and `z = 0` for the neutral element, so that sums need no
inverse. The formulas do not mention `b` and serve both curves.

Points arrive compressed: the abscissa, with three flags in its first byte for "compressed",
"neutral element" and "the larger of the two ordinates".
-/

namespace CanisterGateway.Curve

/-- A point in Jacobian coordinates. -/
structure Point (F : Type) where
  x : F
  y : F
  z : F

namespace Point

variable {F : Type} [Zero F] [One F] [Add F] [Sub F] [Neg F] [Mul F] [DecidableEq F]

/-- The neutral element. -/
def neutral : Point F := ⟨1, 1, 0⟩

/-- The point with the given affine coordinates. -/
def affine (x y : F) : Point F := ⟨x, y, 1⟩

def isNeutral (p : Point F) : Bool := p.z = 0

def negate (p : Point F) : Point F := ⟨p.x, -p.y, p.z⟩

def double (p : Point F) : Point F :=
  let xx := p.x * p.x
  let yy := p.y * p.y
  let yyyy := yy * yy
  let half := (p.x + yy) * (p.x + yy) - xx - yyyy
  let d := half + half
  let e := xx + xx + xx
  let x := e * e - d - d
  let y2 := yyyy + yyyy
  let y4 := y2 + y2
  let yz := p.y * p.z
  ⟨x, e * (d - x) - (y4 + y4), yz + yz⟩

def add (p q : Point F) : Point F :=
  if p.isNeutral then q
  else if q.isNeutral then p
  else
    let pz := p.z * p.z
    let qz := q.z * q.z
    let u := p.x * qz
    let s := p.y * (qz * q.z)
    let h := q.x * pz - u
    let r := q.y * (pz * p.z) - s
    if h = 0 then
      if r = 0 then p.double else neutral
    else
      let hh := h * h
      let hhh := hh * h
      let uhh := u * hh
      let x := r * r - hhh - uhh - uhh
      ⟨x, r * (uhh - x) - s * hhh, h * (p.z * q.z)⟩

/-- The multiple of a point by a natural number. -/
def multiple (n : Nat) (p : Point F) : Point F :=
  if n = 0 then neutral
  else
    let half := multiple (n / 2) p.double
    if n % 2 = 1 then half.add p else half

/-- Whether the point's order divides the group order. -/
def inGroup (p : Point F) : Bool :=
  (multiple groupOrder p).isNeutral

end Point

/-! ## Compressed points -/

/-- The flags of a compressed point, and the bytes of its abscissa without them. -/
structure Compressed where
  compressed : Bool
  neutral : Bool
  larger : Bool
  abscissa : Bytes

/-- Splits off the flags of a point's first byte. -/
def Compressed.ofBytes? : Bytes → Option Compressed
  | [] => none
  | b :: rest =>
    some ⟨b &&& 0x80 ≠ 0, b &&& 0x40 ≠ 0, b &&& 0x20 ≠ 0, (b &&& 0x1F) :: rest⟩

/-- The point that a compressed form stands for, from its abscissa and the ordinate's square root.
The neutral element has abscissa zero and no sign flag. -/
def Compressed.point? {F : Type} [Zero F] [One F] [Neg F] [DecidableEq F] (form : Compressed)
    (x : F) (root : Option F) (isLarger : F → Bool) : Option (Point F) :=
  if !form.compressed then none
  else if form.neutral then
    if !form.larger && x = 0 then some Point.neutral else none
  else root.map fun y => .affine x (if isLarger y = form.larger then y else -y)

/-- A point of the first group from its 48 bytes. -/
def decodeG1? (bytes : Bytes) : Option (Point Fp) := do
  if bytes.length ≠ 48 then none
  let form ← Compressed.ofBytes? bytes
  let x ← Fp.ofBytes? form.abscissa
  let point ← form.point? x (Fp.sqrt? (x * x * x + 4)) Fp.isLarger
  if point.inGroup then some point else none

/-- A point of the second group from its 96 bytes, the coefficient of `u` first. -/
def decodeG2? (bytes : Bytes) : Option (Point Fp2) := do
  if bytes.length ≠ 96 then none
  let form ← Compressed.ofBytes? bytes
  let im ← Fp.ofBytes? (form.abscissa.take 48)
  let re ← Fp.ofBytes? (form.abscissa.drop 48)
  let x : Fp2 := ⟨re, im⟩
  let point ← form.point? x (Fp2.sqrt? (x * x * x + ⟨4, 4⟩)) Fp2.isLarger
  if point.inGroup then some point else none

/-- The generator of the second group. -/
def generatorG2 : Point Fp2 := .affine
  ⟨0x24aa2b2f08f0a91260805272dc51051c6e47ad4fa403b02b4510b647ae3d1770bac0326a805bbefd48056c8c121bdb8,
    0x13e02b6052719f607dacd3a088274f65596bd0d09920b61ab5da61bbdc7f5049334cf11213945d57e5ac7d055d042b7e⟩
  ⟨0xce5d527727d6e118cc9cdc6da2e351aadfd9baa8cbdd3a76d429a695160d12c923ac9cc3baca289e193548608b82801,
    0x606c4a02ea734cc32acd2b02bc28b99cb3e287e85a763af267492ab572e99ab3f370d275cec1da1aaa9075ff05f79be⟩

end CanisterGateway.Curve
