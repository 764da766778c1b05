import CanisterGateway.Http.Chunks

/-!
# The head of a request

A request begins with a line that names its method, its target and the version of the protocol.
Fields follow, and an empty line. They say how long the body is, and whether the connection goes
on after the response.

A body is as long as its length field says, or comes in chunks if the last transfer coding says
so, or is empty. A length beside chunks is dropped if it comes after them, and so is a repeated
length. Lengths that differ, and transfer codings that do not end in chunks, are refused.
-/

namespace CanisterGateway.Http

/-- Why a head cannot be read. -/
inductive HeadFault
  /-- The connection ended before the head did. -/
  | incomplete
  | malformed
  | targetTooLong
  | tooManyFields
  deriving DecidableEq

/-- The status of the response to a head that cannot be read, if there is one. -/
def HeadFault.status? : HeadFault → Option Status
  | incomplete => none
  | malformed => some .badRequest
  | targetTooLong => some ⟨414, by decide, by decide⟩
  | tooManyFields => some ⟨431, by decide, by decide⟩

/-- The two versions of the protocol that are spoken on a connection with lines. -/
inductive Version
  | http10
  | http11
  deriving DecidableEq

/-- How the end of a body is known. -/
inductive BodyLength
  | fixed (length : Nat)
  | chunked
  deriving DecidableEq

/-- The head of a request: the request with no body yet, and what its fields say about the
connection. -/
structure Head where
  request : Request
  version : Version
  persistent : Bool
  length : BodyLength

/-! ## The first line -/

/-- The version that the end of the first line names. -/
def Version.ofBytes? (bytes : Bytes) : Option Version :=
  if bytes = Bytes.ofText "HTTP/1.1" then some .http11
  else if bytes = Bytes.ofText "HTTP/1.0" then some .http10
  else none

def isSpace (b : UInt8) : Bool := b = 0x20

/-- Reads the method, the target and the version. -/
def readFirstLine (line : Bytes) : Except HeadFault (Method × Target × Version) := do
  let afterMethod := (line.dropWhile (!isSpace ·)).drop 1
  let target := afterMethod.takeWhile (!isSpace ·)
  let afterTarget := (afterMethod.dropWhile (!isSpace ·)).drop 1
  let method := Method.ofText? (plainText (line.takeWhile (!isSpace ·)))
  match method, Version.ofBytes? afterTarget with
  | some method, some version =>
    match Target.read .international target with
    | .ok target => return (method, target, version)
    | .error .tooLong => throw .targetTooLong
    | .error _ => throw .malformed
  | _, _ => throw .malformed

/-! ## Fields -/

/-- The number of fields that a head may have. -/
def maxFields : Nat := 100

/-- What the fields so far say. -/
structure FieldReading where
  headers : HeaderMap
  length? : Option Nat
  /-- Whether the last transfer coding is that of chunks, if there is a coding at all. -/
  chunked? : Option Bool
  persistent : Bool

namespace FieldReading

/-- The length that a value writes. -/
def lengthOf? (value : Bytes) : Option Nat :=
  Text.decimalBelow? UInt64.size (plainText value).toList

/-- Takes in one field. -/
def add (reading : FieldReading) (field : RawField) : Except HeadFault FieldReading := do
  let (name, value) := field
  let headers ← (reading.headers.add field).mapError fun _ => .malformed
  let kept := { reading with headers }
  match lowerText name with
  | "transfer-encoding" =>
    return { kept with chunked? := some ((listedItems value).getLast?.any (sameName · "chunked")) }
  | "content-length" =>
    if reading.chunked?.isSome then return reading
    match lengthOf? value, reading.length? with
    | none, _ => throw .malformed
    | some length, none => return { kept with length? := some length }
    | some length, some known => if length = known then return reading else throw .malformed
  | "connection" =>
    let persistent :=
      if reading.persistent then !listsItem value "close" else listsItem value "keep-alive"
    return { kept with persistent }
  | _ => return kept

/-- What all fields say. -/
def ofFields (version : Version) (fields : List RawField) : Except HeadFault FieldReading :=
  fields.foldlM add ⟨.empty, none, none, version = .http11⟩

/-- How the end of the body is known. -/
def bodyLength (reading : FieldReading) (version : Version) : Except HeadFault BodyLength :=
  match reading.chunked?, version with
  | none, _ => .ok (.fixed (reading.length?.getD 0))
  | some true, .http11 => .ok .chunked
  | some _, _ => .error .malformed

end FieldReading

/-! ## Heads -/

namespace Head

/-- Drops line ends in front of a head. -/
def skipLineEnds : Bytes → Bytes
  | 0x0D :: 0x0A :: rest => skipLineEnds rest
  | 0x0A :: rest => skipLineEnds rest
  | bytes => bytes

/-- Reads a head, and gives back the bytes after it. -/
def read (bytes : Bytes) : Except HeadFault (Head × Bytes) := do
  match block? looseLine? (skipLineEnds bytes) with
  | none => throw .incomplete
  | some ([], _) => throw .incomplete
  | some (first :: lines, rest) =>
    let (method, target, version) ← readFirstLine first
    if maxFields < lines.length then throw .tooManyFields
    let fields ← (lines.mapM fieldOfLine?).elim (throw .malformed) pure
    let reading ← FieldReading.ofFields version fields
    let length ← reading.bodyLength version
    return (⟨⟨method, target, reading.headers, []⟩, version, reading.persistent, length⟩, rest)

/-- The frames of the body in the bytes after the head. -/
def frames (head : Head) (bytes : Bytes) : List Frame :=
  match head.length with
  | .chunked => Chunks.frames bytes
  | .fixed length =>
    if bytes.length < length then [.data bytes, brokenBody] else [.data (bytes.take length)]

end Head
end CanisterGateway.Http
