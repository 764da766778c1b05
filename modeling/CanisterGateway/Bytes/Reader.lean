import CanisterGateway.Bytes.Basic

/-!
# Reading from the front

A reader takes something off the front of a byte string and gives back the bytes that are left, or
fails. Formats are put together from a few of them.

## Main results

* `takeBytes_append` — what was written in front is read back, whatever follows.
-/

namespace CanisterGateway.Bytes

/-- Reads from the front of the bytes, and gives back those that are left. -/
abbrev Reader (α : Type) := Bytes → Option (α × Bytes)

/-- Splits off a given number of bytes. -/
def takeBytes (count : Nat) : Reader Bytes := fun bytes =>
  if bytes.length < count then none else some (bytes.take count, bytes.drop count)

theorem takeBytes_append (front rest : Bytes) :
    takeBytes front.length (front ++ rest) = some (front, rest) := by
  simp [takeBytes]

/-- Reads a given number of things. -/
def exactly {α : Type} (read : Reader α) : (count : Nat) → Reader (List α)
  | 0, bytes => some ([], bytes)
  | count + 1, bytes => do
    let (x, bytes) ← read bytes
    let (xs, bytes) ← exactly read count bytes
    some (x :: xs, bytes)

/-- Reads at most a given number of things, up to the first that cannot be read. -/
def atMost {α : Type} (read : Reader α) : (count : Nat) → Bytes → List α × Bytes
  | 0, bytes => ([], bytes)
  | count + 1, bytes =>
    match read bytes with
    | none => ([], bytes)
    | some (x, bytes) =>
      let (xs, bytes) := atMost read count bytes
      (x :: xs, bytes)

/-- Runs readers one after another. -/
def inOrder {α : Type} : List (Reader α) → Reader (List α)
  | [], bytes => some ([], bytes)
  | read :: more, bytes => do
    let (x, bytes) ← read bytes
    let (xs, bytes) ← inOrder more bytes
    some (x :: xs, bytes)

end CanisterGateway.Bytes
