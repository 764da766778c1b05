import CanisterGateway.Bytes.Basic

/-!
# SHA-256

Digests of hash trees, of certified requests and responses and of the points a signature is checked
at are all SHA-256. The message is padded to whole blocks of sixteen words; every block is mixed
into eight chaining words by sixty-four rounds.
-/

namespace CanisterGateway.Hash.Sha256

/-- The round constants: fractional parts of the cube roots of the first sixty-four primes. -/
def roundConstants : Array UInt32 := #[
    0x428a2f98, 0x71374491, 0xb5c0fbcf, 0xe9b5dba5, 0x3956c25b, 0x59f111f1,
    0x923f82a4, 0xab1c5ed5, 0xd807aa98, 0x12835b01, 0x243185be, 0x550c7dc3,
    0x72be5d74, 0x80deb1fe, 0x9bdc06a7, 0xc19bf174, 0xe49b69c1, 0xefbe4786,
    0x0fc19dc6, 0x240ca1cc, 0x2de92c6f, 0x4a7484aa, 0x5cb0a9dc, 0x76f988da,
    0x983e5152, 0xa831c66d, 0xb00327c8, 0xbf597fc7, 0xc6e00bf3, 0xd5a79147,
    0x06ca6351, 0x14292967, 0x27b70a85, 0x2e1b2138, 0x4d2c6dfc, 0x53380d13,
    0x650a7354, 0x766a0abb, 0x81c2c92e, 0x92722c85, 0xa2bfe8a1, 0xa81a664b,
    0xc24b8b70, 0xc76c51a3, 0xd192e819, 0xd6990624, 0xf40e3585, 0x106aa070,
    0x19a4c116, 0x1e376c08, 0x2748774c, 0x34b0bcb5, 0x391c0cb3, 0x4ed8aa4a,
    0x5b9cca4f, 0x682e6ff3, 0x748f82ee, 0x78a5636f, 0x84c87814, 0x8cc70208,
    0x90befffa, 0xa4506ceb, 0xbef9a3f7, 0xc67178f2]

/-- The eight chaining words. -/
structure Chain where
  (a b c d e f g h : UInt32)
  deriving DecidableEq, Inhabited

/-- Fractional parts of the square roots of the first eight primes. -/
def initial : Chain :=
  ⟨0x6a09e667, 0xbb67ae85, 0x3c6ef372, 0xa54ff53a,
    0x510e527f, 0x9b05688c, 0x1f83d9ab, 0x5be0cd19⟩

def rotr (x n : UInt32) : UInt32 :=
  (x >>> n) ||| (x <<< (32 - n))

/-- One word of the message schedule, from the sixteen before it. -/
def scheduleWord (w : Array UInt32) : UInt32 :=
  let word (back : Nat) : UInt32 := w[w.size - back]?.getD 0
  let x := word 15
  let y := word 2
  word 16 + (rotr x 7 ^^^ rotr x 18 ^^^ (x >>> 3)) + word 7
    + (rotr y 17 ^^^ rotr y 19 ^^^ (y >>> 10))

/-- Extends a block's sixteen words by as many more. -/
def schedule : (more : Nat) → Array UInt32 → Array UInt32
  | 0, w => w
  | more + 1, w => schedule more (w.push (scheduleWord w))

/-- One round, with its constant and its schedule word. -/
def round (s : Chain) (k w : UInt32) : Chain :=
  let t1 := s.h + (rotr s.e 6 ^^^ rotr s.e 11 ^^^ rotr s.e 25)
    + ((s.e &&& s.f) ^^^ ((~~~ s.e) &&& s.g)) + k + w
  let t2 := (rotr s.a 2 ^^^ rotr s.a 13 ^^^ rotr s.a 22)
    + ((s.a &&& s.b) ^^^ (s.a &&& s.c) ^^^ (s.b &&& s.c))
  ⟨t1 + t2, s.a, s.b, s.c, s.d + t1, s.e, s.f, s.g⟩

/-- Mixes one block of sixteen words into the chaining words. -/
def compress (s : Chain) (block : Array UInt32) : Chain :=
  let w := schedule 48 block
  let r := (roundConstants.zip w).foldl (fun s (k, w) => round s k w) s
  ⟨s.a + r.a, s.b + r.b, s.c + r.c, s.d + r.d, s.e + r.e, s.f + r.f, s.g + r.g, s.h + r.h⟩

/-- A word from four bytes, most significant first. -/
def word (a b c d : UInt8) : UInt32 :=
  (a.toUInt32 <<< 24) ||| (b.toUInt32 <<< 16) ||| (c.toUInt32 <<< 8) ||| d.toUInt32

/-- The four bytes of a word, most significant first. -/
def wordBytes (w : UInt32) : Bytes :=
  [(w >>> 24).toUInt8, (w >>> 16).toUInt8, (w >>> 8).toUInt8, w.toUInt8]

/-- Appends a one bit, zeros, and the length in bits as eight bytes, up to whole blocks. -/
def pad (message : Bytes) : Bytes :=
  let n := message.length
  message ++ [0x80] ++ List.replicate ((119 - n % 64) % 64) 0 ++ Bytes.ofNatBE 8 (8 * n)

/-- Mixes bytes into the chaining words, a block as soon as it has its sixteen words. -/
def absorb (s : Chain) (block : Array UInt32) : Bytes → Chain
  | a :: b :: c :: d :: rest =>
    let block := block.push (word a b c d)
    if block.size = 16 then absorb (compress s block) #[] rest else absorb s block rest
  | _ => s

/-- The SHA-256 digest of a message. -/
def digest (message : Bytes) : Bytes :=
  let s := absorb initial #[] (pad message)
  [s.a, s.b, s.c, s.d, s.e, s.f, s.g, s.h].flatMap wordBytes

end CanisterGateway.Hash.Sha256
