import CanisterGateway.Bytes.Basic

/-!
# Base 32 and base 64

Both alphabets write a byte string as a string of bits cut into digits of five or six bits. Reading
is the way back: the bits of the digits, cut into bytes. What is left over after the last whole
byte is returned beside the bytes, because the two formats differ in what they allow there.
-/

namespace CanisterGateway.Bytes

/-- The lowest `width` bits of a number, most significant first. -/
def bitsBE : (width n : Nat) → List Bool
  | 0, _ => []
  | width + 1, n => bitsBE width (n / 2) ++ [n % 2 == 1]

/-- The number that bits write, most significant first. -/
def ofBitsBE (bits : List Bool) : Nat :=
  bits.foldl (fun acc b => 2 * acc + b.toNat) 0

/-- Whole groups of eight bits as bytes, and the bits left over. -/
def packBits : List Bool → Bytes × List Bool
  | a :: b :: c :: d :: e :: f :: g :: h :: rest =>
    let (bytes, left) := packBits rest
    (UInt8.ofNat (ofBitsBE [a, b, c, d, e, f, g, h]) :: bytes, left)
  | left => ([], left)

/-! ## Base 32 -/

namespace Base32

/-- The value of a digit of the upper-case alphabet `A` to `Z`, `2` to `7`. -/
def digit? (c : Char) : Option Nat :=
  if 'A' ≤ c ∧ c ≤ 'Z' then some (c.toNat - 'A'.toNat)
  else if '2' ≤ c ∧ c ≤ '7' then some (c.toNat - '2'.toNat + 26)
  else none

/-- The lower-case digit of a value below thirty-two. -/
def lowerDigit (n : Nat) : Char :=
  if n < 26 then Char.ofNat ('a'.toNat + n) else Char.ofNat ('2'.toNat + (n - 26))

/-- Reads unpadded digits. The bits after the last whole byte must be zero and fewer than a
digit's five. -/
def decode? (text : List Char) : Option Bytes := do
  let digits ← text.mapM digit?
  let (bytes, left) := packBits (digits.flatMap (bitsBE 5))
  if left.length < 5 && left.all (!·) then some bytes else none

/-- Bits cut into digits of five, the last one filled up with zeros. -/
def digitsOfBits : List Bool → List Nat
  | a :: b :: c :: d :: e :: rest => ofBitsBE [a, b, c, d, e] :: digitsOfBits rest
  | [] => []
  | left => [ofBitsBE (left ++ List.replicate (5 - left.length) false)]

/-- Unpadded lower-case digits. -/
def encodeLower (bytes : Bytes) : List Char :=
  (digitsOfBits (bytes.flatMap fun b => bitsBE 8 b.toNat)).map lowerDigit

end Base32

/-! ## Base 64 -/

namespace Base64

/-- The value of a digit of the standard alphabet. -/
def digit? (c : Char) : Option Nat :=
  if 'A' ≤ c ∧ c ≤ 'Z' then some (c.toNat - 'A'.toNat)
  else if 'a' ≤ c ∧ c ≤ 'z' then some (c.toNat - 'a'.toNat + 26)
  else if '0' ≤ c ∧ c ≤ '9' then some (c.toNat - '0'.toNat + 52)
  else if c = '+' then some 62
  else if c = '/' then some 63
  else none

/-- How many padding signs may stand after so many digits: at most those that fill up the last
group of four. A last group of one digit is no encoding at all. -/
def paddingAllowed? (digits : Nat) : Option Nat :=
  match digits % 4 with
  | 0 => some 0
  | 2 => some 2
  | 3 => some 1
  | _ => none

/-- Reads digits with their padding, which may be left out in part or altogether. The bits after
the last whole byte are ignored. -/
def decode? (text : List Char) : Option Bytes := do
  let body := text.takeWhile (· ≠ '=')
  let padding := text.dropWhile (· ≠ '=')
  let digits ← body.mapM digit?
  let allowed ← paddingAllowed? digits.length
  if padding.all (· = '=') && padding.length ≤ allowed then
    some (packBits (digits.flatMap (bitsBE 6))).1
  else none

end Base64
end CanisterGateway.Bytes
