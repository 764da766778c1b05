/-!
# Byte strings

Every wire format of this library (hash trees, certificates, call arguments, message bodies) is a
string of bytes. A byte string is a list, so that a reader of a format is a function on the bytes
that are left and its laws are inductions on them.

Besides the type this module holds the three views of a byte string that the formats share: its
hexadecimal text, the number it writes in either byte order, and the UTF-8 bytes of a text.

## Main results

* `ofHex?_toHexChars` — hexadecimal text is read back to the bytes it shows.
-/

namespace CanisterGateway

/-- A string of bytes. -/
abbrev Bytes := List UInt8

namespace Bytes

/-! ## Hexadecimal text -/

/-- The value of a hexadecimal digit of either case. -/
def hexDigit? (c : Char) : Option UInt8 :=
  if '0' ≤ c ∧ c ≤ '9' then some (UInt8.ofNat (c.toNat - '0'.toNat))
  else if 'a' ≤ c ∧ c ≤ 'f' then some (UInt8.ofNat (c.toNat - 'a'.toNat + 10))
  else if 'A' ≤ c ∧ c ≤ 'F' then some (UInt8.ofNat (c.toNat - 'A'.toNat + 10))
  else none

/-- The bytes that pairs of hexadecimal digits show; no bytes if a digit is odd one out or
something is not a digit. -/
def ofHex? : List Char → Option Bytes
  | [] => some []
  | [_] => none
  | high :: low :: rest =>
    match hexDigit? high, hexDigit? low, ofHex? rest with
    | some h, some l, some bytes => some ((h * 16 + l) :: bytes)
    | _, _, _ => none

/-- The lower-case hexadecimal digit of a value below sixteen. -/
def hexChar (n : Nat) : Char :=
  if n < 10 then Char.ofNat ('0'.toNat + n) else Char.ofNat ('a'.toNat + (n - 10))

/-- Two lower-case hexadecimal digits for each byte. -/
def toHexChars (bytes : Bytes) : List Char :=
  bytes.flatMap fun b => [hexChar (b.toNat / 16), hexChar (b.toNat % 16)]

/-- Lower-case hexadecimal text. -/
def toHex (bytes : Bytes) : String :=
  String.ofList bytes.toHexChars

theorem hexDigit?_hexChar {n : Nat} (hn : n < 16) :
    hexDigit? (hexChar n) = some (UInt8.ofNat n) := by
  have digits : ∀ d : Fin 16, hexDigit? (hexChar d.val) = some (UInt8.ofNat d.val) := by decide
  exact digits ⟨n, hn⟩

theorem ofHex?_toHexChars (bytes : Bytes) : ofHex? bytes.toHexChars = some bytes := by
  induction bytes with
  | nil => rfl
  | cons b rest ih =>
      have hb := b.toNat_lt
      have hByte : UInt8.ofNat (b.toNat / 16) * 16 + UInt8.ofNat (b.toNat % 16) = b := by
        apply UInt8.toNat_inj.mp
        simp only [UInt8.toNat_add, UInt8.toNat_mul, UInt8.toNat_ofNat', UInt8.toNat_ofNat]
        omega
      simp only [toHexChars, List.flatMap_cons, List.cons_append, List.nil_append] at ih ⊢
      simp only [ofHex?, hexDigit?_hexChar (show b.toNat / 16 < 16 by omega),
        hexDigit?_hexChar (show b.toNat % 16 < 16 by omega), ih, hByte]

/-! ## Numbers in either byte order -/

/-- The number written with its most significant byte first. -/
def toNatBE (bytes : Bytes) : Nat :=
  bytes.foldl (fun acc b => acc * 256 + b.toNat) 0

/-- The number written with its least significant byte first. -/
def toNatLE (bytes : Bytes) : Nat :=
  bytes.foldr (fun b acc => b.toNat + 256 * acc) 0

/-- The lowest `width` bytes of a number, least significant first. -/
def ofNatLE : (width : Nat) → (n : Nat) → Bytes
  | 0, _ => []
  | width + 1, n => UInt8.ofNat (n % 256) :: ofNatLE width (n / 256)

/-- The lowest `width` bytes of a number, most significant first. -/
def ofNatBE (width n : Nat) : Bytes :=
  (ofNatLE width n).reverse

/-! ## Text -/

/-- The UTF-8 bytes of a text. -/
def ofText (text : String) : Bytes :=
  text.toList.flatMap String.utf8EncodeChar

/-- Byte strings in dictionary order, a proper beginning first. -/
def lt : Bytes → Bytes → Bool
  | _, [] => false
  | [], _ :: _ => true
  | a :: as, b :: bs => a < b || (a == b && lt as bs)

end Bytes
end CanisterGateway
