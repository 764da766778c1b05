import CanisterGateway.Bytes.Basic

/-!
# Variable-length integers

Little-endian groups of seven bits, each in a byte whose top bit says that another byte follows.
Unsigned numbers are read and written, signed ones (two's complement, the sign is bit six of the
last byte) are read.

## Main results

* `decode?_encode` — an unsigned number is read back, whatever follows it.
-/

namespace CanisterGateway.Bytes.Leb128

/-- The bytes of an unsigned number. -/
def encode (n : Nat) : Bytes :=
  if n < 128 then [UInt8.ofNat n]
  else UInt8.ofNat (n % 128 + 128) :: encode (n / 128)

/-- Reads an unsigned number from the front; none if the bytes end within it. -/
def decode? : Bytes → Option (Nat × Bytes)
  | [] => none
  | b :: rest =>
    if b < 128 then some (b.toNat, rest)
    else (decode? rest).map fun (n, rest) => (b.toNat % 128 + 128 * n, rest)

/-- Reads a signed number from the front; none if the bytes end within it. -/
def decodeSigned? : Bytes → Option (Int × Bytes)
  | [] => none
  | b :: rest =>
    if b < 64 then some (b.toNat, rest)
    else if b < 128 then some ((b.toNat : Int) - 128, rest)
    else (decodeSigned? rest).map fun (n, rest) => ((b.toNat % 128 : Nat) + 128 * n, rest)

theorem decode?_encode (n : Nat) (rest : Bytes) :
    decode? (encode n ++ rest) = some (n, rest) := by
  induction n using encode.induct with
  | case1 n hn =>
      have hb : UInt8.ofNat n < 128 := by
        rw [UInt8.lt_iff_toNat_lt, UInt8.toNat_ofNat', show (128 : UInt8).toNat = 128 from rfl]
        omega
      rw [encode, if_pos hn]
      simp only [List.cons_append, List.nil_append, decode?, if_pos hb, UInt8.toNat_ofNat']
      congr 2
      omega
  | case2 n hn ih =>
      have hb : ¬ UInt8.ofNat (n % 128 + 128) < 128 := by
        rw [UInt8.lt_iff_toNat_lt, UInt8.toNat_ofNat', show (128 : UInt8).toNat = 128 from rfl]
        omega
      rw [encode, if_neg hn]
      simp only [List.cons_append, decode?, if_neg hb, ih, Option.map_some, UInt8.toNat_ofNat']
      congr 2
      omega

end CanisterGateway.Bytes.Leb128
