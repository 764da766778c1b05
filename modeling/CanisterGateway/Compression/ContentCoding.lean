import CanisterGateway.Compression.Inflate
import CanisterGateway.Hash.Crc32

/-!
# Content codings

The two codings of a body that are undone before its digest is taken. A body under `deflate` is a
bare compressed stream, of which a truncated one yields what there is of it. A body under `gzip`
has a header in front of the stream and behind it a check sequence and the length of the content.
Any other coding leaves the body as it is.
-/

namespace CanisterGateway.Compression

/-- Why a body cannot be decoded. -/
inductive CodingFault
  | corruptStream
  | header
  | headerTooLong
  | checksum
  | endOfInput
  deriving DecidableEq

/-- The wording of a fault. -/
def CodingFault.message : CodingFault → String
  | corruptStream => "corrupt deflate stream"
  | header => "invalid gzip header"
  | headerTooLong => "gzip header field too long"
  | checksum => "corrupt gzip stream does not have a matching checksum"
  | endOfInput => "unexpected end of file"

/-- The content of a compressed stream and what follows it; nothing follows a truncated one. -/
def inflateLenient (bytes : Bytes) : Except CodingFault (Bytes × Bytes) :=
  let result := inflate bytes
  match result.rest with
  | .ok rest => .ok (result.output, rest)
  | .error .truncated => .ok (result.output, [])
  | .error .corrupt => .error .corruptStream

/-- Splits off so many bytes. -/
def splitBytes (count : Nat) (bytes : Bytes) : Except CodingFault (Bytes × Bytes) :=
  if bytes.length < count then .error .endOfInput
  else .ok (bytes.take count, bytes.drop count)

/-- Drops a field that ends with a zero byte. -/
def dropField (bytes : Bytes) : Except CodingFault Bytes :=
  let field := bytes.takeWhile (· ≠ 0)
  if field.length > 65535 then .error .headerTooLong
  else
    match bytes.dropWhile (· ≠ 0) with
    | [] => .error .endOfInput
    | _ :: rest => .ok rest

/-- Drops the header of a gzip member: ten fixed bytes and the optional parts that its flags
announce. -/
def dropHeader (bytes : Bytes) : Except CodingFault Bytes := do
  let (fixed, rest) ← splitBytes 10 bytes
  let flags := fixed[3]?.getD 0
  if fixed.take 3 ≠ [0x1f, 0x8b, 0x08] || flags &&& 0xE0 ≠ 0 then throw .header
  let rest ← if flags &&& 0x04 = 0 then pure rest else do
    let (size, rest) ← splitBytes 2 rest
    let (_, rest) ← splitBytes (Bytes.toNatLE size) rest
    pure rest
  let rest ← if flags &&& 0x08 = 0 then pure rest else dropField rest
  let rest ← if flags &&& 0x10 = 0 then pure rest else dropField rest
  if flags &&& 0x02 = 0 then return rest
  else
    let (check, after) ← splitBytes 2 rest
    let read := bytes.take (bytes.length - rest.length)
    if Bytes.toNatLE check = (Hash.Crc32.checksum read).toNat % 65536 then return after
    else throw .checksum

/-- The content of a gzip member. -/
def gunzip (bytes : Bytes) : Except CodingFault Bytes := do
  let (content, rest) ← inflateLenient (← dropHeader bytes)
  let (trailer, _) ← splitBytes 8 rest
  if Bytes.toNatLE (trailer.take 4) = (Hash.Crc32.checksum content).toNat
      && Bytes.toNatLE (trailer.drop 4) = content.length % UInt32.size then
    return content
  else throw .checksum

/-- The content of a body with a coding. -/
def decodeBody (coding? : Option String) (body : Bytes) : Except CodingFault Bytes :=
  match coding? with
  | some "gzip" => gunzip body
  | some "deflate" => (inflateLenient body).map (·.1)
  | _ => .ok body

end CanisterGateway.Compression
