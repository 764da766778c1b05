import CanisterGateway.Bytes.Basic

/-!
# CRC-32

The cyclic redundancy check with the reflected polynomial `EDB88320`, start and final complement
all ones: the check sequence of principal texts and of gzip members.
-/

namespace CanisterGateway.Hash.Crc32

/-- Divides by the polynomial for a number of bits. -/
def shiftBits : (bits : Nat) → UInt32 → UInt32
  | 0, r => r
  | bits + 1, r => shiftBits bits (if r &&& 1 = 1 then (r >>> 1) ^^^ 0xEDB88320 else r >>> 1)

/-- Takes one byte into the remainder. -/
def update (r : UInt32) (b : UInt8) : UInt32 :=
  shiftBits 8 (r ^^^ b.toUInt32)

/-- The check sequence of a byte string. -/
def checksum (bytes : Bytes) : UInt32 :=
  bytes.foldl update 0xFFFFFFFF ^^^ 0xFFFFFFFF

end CanisterGateway.Hash.Crc32
