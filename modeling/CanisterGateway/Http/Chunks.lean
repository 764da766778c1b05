import CanisterGateway.Http.Frame
import CanisterGateway.Http.Line
import CanisterGateway.Text.Number

/-!
# Bodies in chunks

A body whose length is not known beforehand comes in chunks: a line with the size of the chunk in
hexadecimal digits, then its bytes and a line end. A chunk of size zero is the end; trailers may
follow it, and an empty line. After the size there may be blanks and an extension, which says
nothing to us.

Whatever is wrong with a chunk, reading fails there, and the frames before it are as they were.

## Main results

* `sizeLine?_length_lt` — the line of a size is not empty, so reading comes to an end.
-/

namespace CanisterGateway.Http

open Bytes (Reader takeBytes)

/-- What is said of a body that cannot be read to its end. -/
def brokenBody : Frame := .failure "error reading a body from connection"

namespace Chunks

def isHexByte (b : UInt8) : Bool :=
  (Text.digit? 16 (Char.ofNat b.toNat)).isSome

def isSemicolon (b : UInt8) : Bool := b = 0x3B

def isLineEnd (b : UInt8) : Bool := b = carriageReturn || b = lineFeed

/-- What is left of a line after its size: blanks, then perhaps an extension. -/
def skipExtension (bytes : Bytes) : Bytes :=
  match bytes.dropWhile isBlankByte with
  | [] => []
  | b :: rest => if isSemicolon b then rest.dropWhile (!isLineEnd ·) else b :: rest

/-- Reads a line end. -/
def lineEnd? : Bytes → Option Bytes
  | first :: second :: rest =>
    if first = carriageReturn && second = lineFeed then some rest else none
  | _ => none

/-- Reads the size of a chunk and the rest of its line. -/
def sizeLine? : Reader Nat := fun bytes => do
  let digits := plainText (bytes.takeWhile isHexByte)
  let size ← (Text.number? 16 digits.toList).filter (· < UInt64.size)
  let rest ← lineEnd? (skipExtension (bytes.dropWhile isHexByte))
  some (size, rest)

theorem lineEnd?_length {bytes rest : Bytes} (h : lineEnd? bytes = some rest) :
    rest.length < bytes.length := by
  unfold lineEnd? at h
  split at h
  · split at h
    · cases h
      simp only [List.length_cons]
      omega
    · cases h
  · cases h

theorem length_skipExtension_le (bytes : Bytes) : (skipExtension bytes).length ≤ bytes.length := by
  have hBlanks := (List.dropWhile_suffix (l := bytes) isBlankByte).length_le
  unfold skipExtension
  split
  · exact Nat.zero_le _
  · next b rest h =>
      rw [h] at hBlanks
      split
      · have := (List.dropWhile_suffix (l := rest) (!isLineEnd ·)).length_le
        simp only [List.length_cons] at hBlanks
        omega
      · exact hBlanks

theorem sizeLine?_length_lt {bytes rest : Bytes} {size : Nat}
    (h : sizeLine? bytes = some (size, rest)) : rest.length < bytes.length := by
  simp only [sizeLine?, Option.bind_eq_bind, Option.bind_eq_some_iff, Option.some.injEq,
    Prod.mk.injEq] at h
  obtain ⟨_, _, _, hEnd, _, rfl⟩ := h
  have h1 := lineEnd?_length hEnd
  have h2 := length_skipExtension_le (bytes.dropWhile isHexByte)
  have h3 := (List.dropWhile_suffix (l := bytes) isHexByte).length_le
  omega

/-- Reads the data of a chunk and the line end after it. -/
def data? (size : Nat) : Reader Bytes := fun bytes => do
  let (data, rest) ← takeBytes size bytes
  let rest ← lineEnd? rest
  some (data, rest)

theorem data?_length_lt {size : Nat} {bytes data rest : Bytes}
    (h : data? size bytes = some (data, rest)) : rest.length < bytes.length := by
  simp only [data?, Option.bind_eq_bind, Option.bind_eq_some_iff, Option.some.injEq, Prod.mk.injEq,
    Prod.exists] at h
  obtain ⟨_, after, hTake, _, hEnd, _, rfl⟩ := h
  have h1 := lineEnd?_length hEnd
  unfold takeBytes at hTake
  split at hTake
  · cases hTake
  · cases hTake
    simp only [List.length_drop] at h1
    omega

/-- The frame of the trailers. -/
def trailers (bytes : Bytes) : Frame :=
  match block? strictLine? bytes with
  | none => brokenBody
  | some (lines, _) =>
    match lines.mapM fieldOfLine? with
    | none => brokenBody
    | some fields =>
      match HeaderMap.empty.addFields fields with
      | .error _ => brokenBody
      | .ok _ => .trailers fields

set_option linter.unusedVariables false in
/-- The frames of a body in chunks. -/
def frames (bytes : Bytes) : List Frame :=
  match hSize : sizeLine? bytes with
  | none => [brokenBody]
  | some (0, rest) => [trailers rest]
  | some (size + 1, rest) =>
    match hData : data? (size + 1) rest with
    | none => [brokenBody]
    | some (data, rest) => .data data :: frames rest
termination_by bytes.length
decreasing_by
  have h1 := sizeLine?_length_lt hSize
  have h2 := data?_length_lt hData
  omega

end Chunks
end CanisterGateway.Http
