import CanisterGateway.Text.Number
import CanisterGateway.Text.Split

/-!
# Internet addresses

An address of version four is four numbers below 256, written in decimal with dots between them and
without leading zeros. An address of version six is eight groups of sixteen bits, written in up to
four hexadecimal digits with colons between them. The last two groups may be written as an address
of version four, and one doubled colon may stand for one or more groups of zeros.

Written out, an address of version six has the longest run of at least two zero groups doubled away,
the first one if there are several. One that only wraps an address of version four shows it with
dots.
-/

namespace CanisterGateway.Address

/-! ## Version four -/

/-- Four numbers of eight bits. -/
abbrev V4 := Vector UInt8 4

/-- A number below 256 without leading zeros. -/
def octet? (text : List Char) : Option UInt8 :=
  if text.head? = some '0' && text.length ≠ 1 then none
  else (Text.decimalBelow? 256 text).map UInt8.ofNat

/-- The address of version four that a text writes. -/
def V4.ofText? (text : List Char) : Option V4 := do
  let octets ← (Text.splitAt '.' text).mapM octet?
  if h : octets.toArray.size = 4 then some ⟨octets.toArray, h⟩ else none

/-- An address of version four with dots. -/
def V4.text (address : V4) : String :=
  ".".intercalate (address.toList.map fun octet => toString octet.toNat)

/-! ## Version six -/

/-- Eight groups of sixteen bits. -/
abbrev V6 := Vector UInt16 8

/-- A group of up to four hexadecimal digits. -/
def group? (text : List Char) : Option UInt16 :=
  if 4 < text.length then none else (Text.number? 16 text).map UInt16.ofNat

/-- The two groups that an address of version four fills. -/
def V4.groups (address : V4) : List UInt16 :=
  let pair (high low : UInt8) : UInt16 := high.toUInt16 * 256 + low.toUInt16
  [pair address[0] address[1], pair address[2] address[3]]

/-- The groups that pieces write; the last piece may be an address of version four. -/
def groupsOfPieces? : List (List Char) → Option (List UInt16)
  | [] => some []
  | [last] =>
    match V4.ofText? last with
    | some address => some address.groups
    | none => (group? last).map ([·])
  | piece :: pieces => do
    let group ← group? piece
    let groups ← groupsOfPieces? pieces
    some (group :: groups)

/-- The groups that a text without doubled colons writes; no text is no groups. -/
def groups? (text : List Char) : Option (List UInt16) :=
  if text.isEmpty then some [] else groupsOfPieces? (Text.splitAt ':' text)

/-- The groups in front of a doubled colon, none of which is written with dots. -/
def frontGroups? (text : List Char) : Option (List UInt16) :=
  if text.isEmpty then some [] else (Text.splitAt ':' text).mapM group?

/-- The address of version six that a text writes. -/
def V6.ofText? (text : List Char) : Option V6 := do
  let groups ←
    match Text.splitPair? ':' text with
    | none => groups? text
    | some (front, back) => do
      let front ← frontGroups? front
      let back ← groups? back
      if front.length + back.length < 8 then
        some (front ++ List.replicate (8 - front.length - back.length) 0 ++ back)
      else none
  if h : groups.toArray.size = 8 then some ⟨groups.toArray, h⟩ else none

/-! ## Writing -/

/-- The length of the run of zeros that begins at an index. -/
def zerosAt (groups : List UInt16) (start : Nat) : Nat :=
  ((groups.drop start).takeWhile (· = 0)).length

/-- The longer of a run that was found so far and the run that begins at an index. -/
def longerRun (groups : List UInt16) (best : Nat × Nat) (start : Nat) : Nat × Nat :=
  if best.2 < zerosAt groups start then (start, zerosAt groups start) else best

/-- Where the first longest run of zeros begins, and its length. -/
def longestZeros (groups : List UInt16) : Nat × Nat :=
  (List.range groups.length).foldl (longerRun groups) (0, 0)

/-- Groups in hexadecimal with colons between them. -/
def groupsText (groups : List UInt16) : String :=
  ":".intercalate (groups.map fun group => String.ofList (Nat.toDigits 16 group.toNat))

/-- The address of version four that an address of version six wraps. -/
def V6.wrapped? (address : V6) : Option V4 :=
  if address.toList.take 6 = [0, 0, 0, 0, 0, 0xFFFF] then
    let octets (group : UInt16) : UInt8 × UInt8 := ((group / 256).toUInt8, group.toUInt8)
    let (a, b) := octets address[6]
    let (c, d) := octets address[7]
    some #v[a, b, c, d]
  else none

/-- The text of an address of version six. -/
def V6.text (address : V6) : String :=
  match address.wrapped? with
  | some inner => "::ffff:" ++ inner.text
  | none =>
    let groups := address.toList
    let (start, length) := longestZeros groups
    if 1 < length then
      groupsText (groups.take start) ++ "::" ++ groupsText (groups.drop (start + length))
    else groupsText groups

end CanisterGateway.Address
