import CanisterGateway.Bytes.Radix
import CanisterGateway.Hash.Crc32
import CanisterGateway.Text.Quoted

/-!
# Principals

Canisters and subnets are named by principals, byte strings of at most twenty-nine bytes. The text
of a principal is the base 32 form of its check sequence and its bytes, in groups of five
characters.

A text is read liberally, as to letter case and the place of the dashes, and the principal found
is then accepted only if its own text is the one that was given, letter case apart.
-/

namespace CanisterGateway

/-- The name of a canister, a subnet or a user. -/
structure Principal where
  bytes : Bytes
  length_le : bytes.length ≤ 29
  deriving DecidableEq

namespace Principal

/-- The principal of these bytes, unless they are too many. -/
def ofBytes? (bytes : Bytes) : Option Principal :=
  if h : bytes.length ≤ 29 then some ⟨bytes, h⟩ else none

/-! ## Text -/

/-- Groups of five characters with dashes between them. -/
def grouped : List Char → List Char
  | a :: b :: c :: d :: e :: f :: rest => a :: b :: c :: d :: e :: '-' :: grouped (f :: rest)
  | short => short

/-- The canonical text. -/
def chars (principal : Principal) : List Char :=
  let check := (Hash.Crc32.checksum principal.bytes).toNat
  grouped (Bytes.Base32.encodeLower (Bytes.ofNatBE 4 check ++ principal.bytes))

def text (principal : Principal) : String :=
  String.ofList principal.chars

/-- Why a text names no principal. -/
inductive Fault
  | invalidBase32
  | tooShort
  | tooLong
  | checkSequence
  | grouping (expected : Principal)
  deriving DecidableEq

/-- The wording of a fault. -/
def Fault.message : Fault → String
  | invalidBase32 => "Text must be in valid Base32 encoding."
  | tooShort => "Text is too short."
  | tooLong => "Text is too long."
  | checkSequence => "CRC32 check sequence doesn't match with calculated from Principal bytes."
  | grouping expected =>
    "Text should be separated by - (dash) every 5 characters: expected \"" ++ expected.text ++ "\""

/-- The principal that a text names. -/
def ofText (text : String) : Except Fault Principal :=
  let letters := (text.toList.map Char.toUpper).filter (· ≠ '-')
  match Bytes.Base32.decode? letters with
  | none => .error .invalidBase32
  | some bytes =>
    if bytes.length < 4 then .error .tooShort
    else
      match ofBytes? (bytes.drop 4) with
      | none => .error .tooLong
      | some principal =>
        if Bytes.toNatBE (bytes.take 4) ≠ (Hash.Crc32.checksum principal.bytes).toNat then
          .error .checkSequence
        else if principal.chars ≠ text.toList.map Char.toLower then .error (.grouping principal)
        else .ok principal

/-! ## Order -/

/-- Shorter principals come first, those of one length are in dictionary order. -/
def lt (a b : Principal) : Bool :=
  a.bytes.length < b.bytes.length || (a.bytes.length == b.bytes.length && Bytes.lt a.bytes b.bytes)

/-- Whether a principal lies between two others, both included. -/
def within (a first last : Principal) : Bool :=
  !lt a first && !lt last a

/-- A principal as its length and all of its twenty-nine places, unused ones zero. -/
def fields (principal : Principal) : String :=
  let places := principal.bytes ++ List.replicate (29 - principal.bytes.length) 0
  "Principal \x7b len: " ++ toString principal.bytes.length ++ ", bytes: "
    ++ Text.byteList places ++ " \x7d"

end Principal
end CanisterGateway
