import CanisterGateway.Bytes.Reader
import CanisterGateway.Bytes.Utf8

/-!
# The binary items of certificates

Hash trees, certificates and expression paths are written as items of the concise binary object
representation, in a reading that asks for definite lengths and is lenient otherwise: tags and
simple values are passed over and the item after them counts, byte strings and text strings are
the same thing, and a map ends where no further entry can be read.

Every item takes at least one byte, so the number of bytes bounds the depth of nesting.
-/

namespace CanisterGateway.Certification.Cbor

open Bytes (Reader takeBytes exactly atMost)

/-- An item. A number remembers how many bytes its value took beside the first one. -/
inductive Item
  | unsigned (octets n : Nat)
  | negative (octets n : Nat)
  | bytes (content : Bytes)
  | array (items : List Item)
  | map (entries : List (String × Item))

/-- The argument that the low bits of a first byte announce, with the number of its own bytes. -/
def argument (info : Nat) : Reader (Nat × Nat) := fun bytes =>
  if info < 24 then some ((0, info), bytes)
  else if info < 28 then do
    let octets := 1 <<< (info - 24)
    let (content, rest) ← takeBytes octets bytes
    some ((octets, Bytes.toNatBE content), rest)
  else none

/-- Reads a map entry, whose key is a string. -/
def entry (item : Reader Item) : Reader (String × Item) := fun bytes => do
  let (key, bytes) ← item bytes
  match key with
  | .bytes content =>
    let key ← Bytes.Utf8.decode? content
    let (value, bytes) ← item bytes
    some ((key, value), bytes)
  | _ => none

/-- Reads an item of at most the given depth. -/
def item : (depth : Nat) → Reader Item
  | 0, _ => none
  | _ + 1, [] => none
  | depth + 1, first :: bytes => do
    let ((octets, n), bytes) ← argument (first.toNat % 32) bytes
    match first.toNat / 32 with
    | 0 => some (.unsigned octets n, bytes)
    | 1 => some (.negative octets n, bytes)
    | 2 | 3 => (takeBytes n bytes).map fun (content, bytes) => (.bytes content, bytes)
    | 4 => (exactly (item depth) n bytes).map fun (items, bytes) => (.array items, bytes)
    | 5 =>
      let (entries, bytes) := atMost (entry (item depth)) n bytes
      some (.map entries, bytes)
    | _ => item depth bytes

/-- The item that all of the bytes write. -/
def read? (bytes : Bytes) : Option Item :=
  match item (bytes.length + 1) bytes with
  | some (root, []) => some root
  | _ => none

/-- The entry of a map under a key, the last one if there are several. -/
def lookup? (entries : List (String × Item)) (key : String) : Option Item :=
  (entries.reverse.find? (·.1 == key)).map (·.2)

/-- Why bytes are not the data they should be. -/
inductive Fault
  | malformed
  | malformedTree
  | malformedCertificate
  | prunedLength
  | unexpectedType
  | encoding
  deriving DecidableEq

/-- The item that bytes write, or the fault that they write none. -/
def read (bytes : Bytes) : Except Fault Item :=
  match read? bytes with
  | some root => .ok root
  | none => .error .malformed

end CanisterGateway.Certification.Cbor
