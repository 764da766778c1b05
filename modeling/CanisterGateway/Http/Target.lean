import CanisterGateway.Bytes.Utf8

/-!
# Request targets

A request names its target in one of three forms: a path with an optional query, an absolute
address with a scheme and an authority in front, or an authority alone. A fragment is cut off and
forgotten. An address without a path has the path `/`; a query that is present but empty stays
distinct from no query.

The reader works on bytes, because a target that arrives over a connection need not be UTF-8. Paths
and queries may contain bytes from `80` up in one of the two grammars that are in use, and must then
be UTF-8; everything else is ASCII.
-/

namespace CanisterGateway.Http

/-- Why a text is no target. -/
inductive TargetFault
  | tooLong
  | empty
  | invalidCharacter
  | invalidAuthority
  | invalidFormat
  | schemeTooLong
  deriving DecidableEq

/-- The wording of a fault. -/
def TargetFault.message : TargetFault → String
  | tooLong => "uri too long"
  | empty => "empty string"
  | invalidCharacter => "invalid uri character"
  | invalidAuthority => "invalid authority"
  | invalidFormat => "invalid format"
  | schemeTooLong => "scheme too long"

/-- The scheme of an absolute target. The two schemes of the web are known in any case; any other
is kept as it was written, and may even be empty. -/
inductive Scheme
  | http
  | https
  | other (text : String)
  deriving DecidableEq

def Scheme.text : Scheme → String
  | http => "http"
  | https => "https"
  | other text => text

/-- A path with an optional query. -/
structure Resource where
  path : String
  query? : Option String
  deriving DecidableEq

/-- The text of a path and query. -/
def Resource.text (resource : Resource) : String :=
  match resource.query? with
  | none => resource.path
  | some query => resource.path ++ "?" ++ query

/-- What a request asks for. -/
inductive Target
  | origin (resource : Resource)
  | absolute (scheme : Scheme) (authority : String) (resource : Resource)
  | authority (text : String)
  deriving DecidableEq

namespace Target

/-- The path of a target; an authority alone has an empty one. -/
def path : Target → String
  | origin resource => resource.path
  | absolute _ _ resource => resource.path
  | authority _ => ""

/-- The query of a target, if it has one. -/
def query? : Target → Option String
  | origin resource => resource.query?
  | absolute _ _ resource => resource.query?
  | authority _ => none

/-- The text in front of the path. -/
def address : Target → String
  | origin _ => ""
  | absolute scheme host _ => scheme.text ++ "://" ++ host
  | authority text => text

/-- The text of a target, without fragment. -/
def text (target : Target) : String :=
  target.address ++ Resource.text ⟨target.path, target.query?⟩

end Target

/-! ## Reading paths and queries -/

/-- Which bytes paths and queries may contain. -/
inductive TargetGrammar
  /-- ASCII, and UTF-8 text beyond it. -/
  | international
  /-- ASCII only. -/
  | ascii
  deriving DecidableEq

namespace TargetGrammar

/-- Whether the grammar takes bytes from `80` up. -/
def takesHigh : TargetGrammar → Bool
  | international => true
  | ascii => false

/-- Whether a path may contain the byte. -/
def isPathByte (grammar : TargetGrammar) (b : UInt8) : Bool :=
  b = 0x21 || b = 0x22 || (0x24 ≤ b && b ≤ 0x3B) || b = 0x3D || (0x40 ≤ b && b ≤ 0x5F)
    || (0x61 ≤ b && b ≤ 0x7E) || (grammar.takesHigh && 0x80 ≤ b)

/-- Whether a query may contain the byte. -/
def isQueryByte (grammar : TargetGrammar) (b : UInt8) : Bool :=
  b = 0x21 || (0x24 ≤ b && b ≤ 0x3B) || b = 0x3D || (0x3F ≤ b && b ≤ 0x7E)
    || (grammar.takesHigh && 0x80 ≤ b)

end TargetGrammar

/-- The longest target, in bytes. -/
def maxTargetLength : Nat := 65534

/-- The byte of a question mark. -/
def questionMark : UInt8 := 0x3F

/-- The byte of a number sign. -/
def numberSign : UInt8 := 0x23

/-- The text of bytes that a path or query consists of. -/
def targetText (bytes : Bytes) : Except TargetFault String :=
  match Bytes.Utf8.decode? bytes with
  | some text => .ok text
  | none => .error .invalidCharacter

/-- Reads a path and query, up to a fragment. -/
def Resource.read (grammar : TargetGrammar) (bytes : Bytes) : Except TargetFault Resource := do
  if bytes.length > maxTargetLength then throw .tooLong
  let pathBytes := bytes.takeWhile fun b => b ≠ questionMark && b ≠ numberSign
  let rest := bytes.dropWhile fun b => b ≠ questionMark && b ≠ numberSign
  if !pathBytes.all grammar.isPathByte then throw .invalidCharacter
  match rest with
  | b :: rest =>
    if b = questionMark then
      let queryBytes := rest.takeWhile (· ≠ numberSign)
      if !queryBytes.all grammar.isQueryByte then throw .invalidCharacter
      let path ← targetText pathBytes
      let query ← targetText queryBytes
      return ⟨if path = "" then "/" else path, some query⟩
    else
      let path ← targetText pathBytes
      return ⟨if path = "" then "/" else path, none⟩
  | [] =>
    let path ← targetText pathBytes
    return ⟨if path = "" then "/" else path, none⟩

/-! ## Reading schemes -/

/-- Whether a scheme may contain the byte. -/
def isSchemeByte (b : UInt8) : Bool :=
  (0x61 ≤ b && b ≤ 0x7A) || (0x41 ≤ b && b ≤ 0x5A) || (0x30 ≤ b && b ≤ 0x39)
    || b = 0x2B || b = 0x2D || b = 0x2E || b = 0x7E

/-- An ASCII letter in lower case, every other byte as it is. -/
def lowerByte (b : UInt8) : UInt8 :=
  if 0x41 ≤ b && b ≤ 0x5A then b + 0x20 else b

/-- Whether the bytes begin with the text, ASCII letters in any case. -/
def startsWithAnyCase (bytes : Bytes) (text : String) : Bool :=
  (bytes.take text.length).map lowerByte = Bytes.ofText text

/-- Splits off a scheme and the `://` after it. -/
def readScheme (bytes : Bytes) : Except TargetFault (Option Scheme × Bytes) :=
  if startsWithAnyCase bytes "http://" then .ok (some .http, bytes.drop 7)
  else if startsWithAnyCase bytes "https://" then .ok (some .https, bytes.drop 8)
  else
    let scheme := bytes.takeWhile isSchemeByte
    let rest := bytes.dropWhile isSchemeByte
    if bytes.length > 3 && rest.take 3 = Bytes.ofText "://" then
      if scheme.length > 64 then .error .schemeTooLong
      else .ok (some (.other (Bytes.Utf8.decodeLossy scheme)), rest.drop 3)
    else .ok (none, bytes)

/-! ## Reading authorities -/

/-- Whether an authority may contain the byte; the percent sign is looked at separately. -/
def isAuthorityByte (b : UInt8) : Bool :=
  b = 0x21 || b = 0x24 || (0x26 ≤ b && b ≤ 0x2E) || (0x30 ≤ b && b ≤ 0x3B) || b = 0x3D
    || (0x40 ≤ b && b ≤ 0x5B) || b = 0x5D || b = 0x5F || (0x61 ≤ b && b ≤ 0x7A) || b = 0x7E

/-- What an authority's beginning says about the rest: the colons and percent signs that are not
known to belong to user information or to a bracketed address, the brackets seen, and whether the
last byte was the at sign. -/
structure AuthorityScan where
  colons : Nat
  opened : Bool
  closed : Bool
  percent : Bool
  atSignLast : Bool

def AuthorityScan.start : AuthorityScan := ⟨0, false, false, false, false⟩

/-- Takes in one byte of an authority. -/
def AuthorityScan.step (s : AuthorityScan) (b : UInt8) : Except TargetFault AuthorityScan :=
  if b = 0x3A then
    if s.colons ≥ 8 then .error .invalidAuthority
    else .ok { s with colons := s.colons + 1, atSignLast := false }
  else if b = 0x5B then
    if s.percent || s.opened then .error .invalidAuthority
    else .ok { s with opened := true, atSignLast := false }
  else if b = 0x5D then
    if !s.opened || s.closed then .error .invalidAuthority
    else .ok { s with closed := true, colons := 0, percent := false, atSignLast := false }
  else if b = 0x40 then .ok { s with colons := 0, percent := false, atSignLast := true }
  else if b = 0x25 then .ok { s with percent := true, atSignLast := false }
  else if isAuthorityByte b then .ok { s with atSignLast := false }
  else .error .invalidCharacter

/-- Whether an authority may end here. -/
def AuthorityScan.complete (s : AuthorityScan) : Bool :=
  s.opened == s.closed && s.colons ≤ 1 && !s.atSignLast && !s.percent

/-- Whether the byte ends an authority. -/
def endsAuthority (b : UInt8) : Bool :=
  b = 0x2F || b = questionMark || b = numberSign

/-- Splits off an authority, which ends before the first slash, question mark or number sign. -/
def readAuthority (bytes : Bytes) : Except TargetFault (Bytes × Bytes) := do
  let authority := bytes.takeWhile (!endsAuthority ·)
  let scan ← authority.foldlM AuthorityScan.step AuthorityScan.start
  if scan.complete then return (authority, bytes.dropWhile (!endsAuthority ·))
  else throw .invalidAuthority

/-! ## Reading targets -/

/-- A target of one byte: a slash, an asterisk, or an authority. -/
def Target.readByte (b : UInt8) : Except TargetFault Target :=
  if b = 0x2F then .ok (.origin ⟨"/", none⟩)
  else if b = 0x2A then .ok (.origin ⟨"*", none⟩)
  else do
    let (host, rest) ← readAuthority [b]
    if rest.isEmpty then return .authority (Bytes.Utf8.decodeLossy host)
    else throw .invalidCharacter

/-- A target that does not begin with a slash. -/
def Target.readAddress (grammar : TargetGrammar) (bytes : Bytes) : Except TargetFault Target := do
  let (scheme?, rest) ← readScheme bytes
  if rest.isEmpty then throw .empty
  let (hostBytes, rest) ← readAuthority rest
  let host := Bytes.Utf8.decodeLossy hostBytes
  match scheme? with
  | none => if rest.isEmpty then return .authority host else throw .invalidFormat
  | some scheme =>
    if hostBytes.isEmpty then throw .invalidFormat
    let resource ← Resource.read grammar rest
    return .absolute scheme host resource

/-- The target that bytes write. -/
def Target.read (grammar : TargetGrammar) (bytes : Bytes) : Except TargetFault Target :=
  if bytes.length > maxTargetLength then .error .tooLong
  else match bytes with
    | [] => .error .empty
    | [b] => Target.readByte b
    | b :: _ =>
      if b = 0x2F then (Resource.read grammar bytes).map .origin
      else Target.readAddress grammar bytes

end CanisterGateway.Http
