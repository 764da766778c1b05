import CanisterGateway.Text.Blank

/-!
# Certification expressions

A certified response says in a small expression language which parts of the request and of itself
are covered. A term is an object with named fields, a call with arguments, a list or a quoted text:

    Name{key:term,...}   Name(term,...)   [term,...]   "text"

Blanks may stand in front of every token. A text holds letters, digits, dashes and three escapes,
which stay as they are written. Letters and digits are judged by the lowest eight bits of a
character. What follows the first term is ignored.

Reading happens in two steps: a text becomes a term, and a term of the one expected shape becomes a
`Coverage`.
-/

namespace CanisterGateway.Certification.Expression

/-- A term of the expression language. -/
inductive Term
  | object (name : String) (fields : List (String × Term))
  | call (name : String) (arguments : List Term)
  | list (items : List Term)
  | text (content : String)

/-! ## From text to term -/

/-- Reads from the front of a text, and gives back what is left. -/
abbrev Reader (α : Type) := List Char → Option (α × List Char)

def isGap (c : Char) : Bool :=
  c = ' ' || c = '\t' || c = '\r' || c = '\n'

/-- Whether the lowest eight bits of a character are those of an ASCII letter or digit. -/
def isAlphanumeric (c : Char) : Bool :=
  (Char.ofNat (c.toNat % 256)).isAlphanum

def isNameChar (c : Char) : Bool :=
  c = '_' || isAlphanumeric c

def isTextChar (c : Char) : Bool :=
  c = '-' || isAlphanumeric c

/-- Drops blanks. -/
def skip (text : List Char) : List Char :=
  text.dropWhile isGap

/-- A name, which may be empty. -/
def name (text : List Char) : String × List Char :=
  let text := skip text
  (String.ofList (text.takeWhile isNameChar), text.dropWhile isNameChar)

/-- Reads a given character. -/
def token (c : Char) (text : List Char) : Option (List Char) :=
  match skip text with
  | [] => none
  | d :: rest => if c = d then some rest else none

/-- The characters of a quoted text up to the one that cannot belong to it. -/
def content : List Char → List Char × List Char
  | '\\' :: c :: rest =>
    if c = '"' || c = 'n' || c = '\\' then
      let (more, rest) := content rest
      ('\\' :: c :: more, rest)
    else ([], '\\' :: c :: rest)
  | c :: rest =>
    if isTextChar c then
      let (more, rest) := content rest
      (c :: more, rest)
    else ([], c :: rest)
  | [] => ([], [])

/-- The remaining items of a list with separating commas, after its first item, up to the closing
bracket. -/
def itemsAfter {α : Type} (item : Reader α) (close : Char) : (limit : Nat) → Reader (List α)
  | 0, _ => none
  | limit + 1, text =>
    match token close text with
    | some rest => some ([], rest)
    | none => do
      let text ← token ',' text
      let (x, text) ← item text
      let (xs, text) ← itemsAfter item close limit text
      some (x :: xs, text)

/-- The items of a list with separating commas, up to the closing bracket. -/
def items {α : Type} (item : Reader α) (close : Char) : Reader (List α) := fun text =>
  match token close text with
  | some rest => some ([], rest)
  | none => do
    let (x, text) ← item text
    let (xs, text) ← itemsAfter item close text.length.succ text
    some (x :: xs, text)

/-- A key, a colon and a term. -/
def field (term : Reader Term) : Reader (String × Term) := fun text => do
  let (key, text) := name text
  let text ← token ':' text
  let (value, text) ← term text
  some ((key, value), text)

/-- Reads a term of at most the given depth. -/
def term : (depth : Nat) → Reader Term
  | 0, _ => none
  | depth + 1, text =>
    let (head, rest) := name text
    match skip rest with
    | '\x7b' :: rest =>
      (items (field (term depth)) '\x7d' rest).map fun (fields, rest) => (.object head fields, rest)
    | '(' :: rest =>
      (items (term depth) ')' rest).map fun (arguments, rest) => (.call head arguments, rest)
    | '[' :: rest =>
      if head ≠ "" then none
      else (items (term depth) ']' rest).map fun (items, rest) => (.list items, rest)
    | '"' :: rest =>
      if head ≠ "" then none
      else
        let (characters, rest) := content rest
        (token '"' rest).map fun rest => (.text (String.ofList characters), rest)
    | _ => none

/-- The term at the front of a text. -/
def read? (text : String) : Option Term :=
  (term (text.length + 1) text.toList).map (·.1)

/-! ## From term to coverage -/

/-- Why an expression states no coverage. -/
inductive Fault
  | unreadable
  | unknownFunction
  | termKind
  | termName
  | missingArgument
  | missingField
  | bothKinds
  | neitherKind
  | bothRequests
  | neitherRequest
  | bothResponses
  | neitherResponse
  deriving DecidableEq

/-- Which headers of a response are covered: those of a list, or all but those of a list. -/
inductive HeaderChoice
  | only (names : List String)
  | allBut (names : List String)
  deriving DecidableEq

/-- Which headers and query parameters of a request are covered. -/
structure RequestCoverage where
  headers : List String
  parameters : List String
  deriving DecidableEq

/-- What a certification covers: nothing, or perhaps parts of the request and parts of the
response. -/
inductive Coverage
  | nothing
  | parts (request? : Option RequestCoverage) (response : HeaderChoice)
  deriving DecidableEq

/-- The value of the last field with a key. -/
def lookup? (fields : List (String × Term)) (key : String) : Option Term :=
  (fields.reverse.find? (·.1 == key)).map (·.2)

/-- The fields of an object with the given name. -/
def asObject (expected : String) : Term → Except Fault (List (String × Term))
  | .object name fields => if name = expected then .ok fields else .error .termName
  | _ => .error .termKind

/-- The contents of a list of texts. -/
def asTexts : Term → Except Fault (List String)
  | .list items => items.mapM fun
    | .text content => .ok content
    | _ => .error .termKind
  | _ => .error .termKind

/-- The value of a field that must be there. -/
def required (fields : List (String × Term)) (key : String) : Except Fault Term :=
  (lookup? fields key).elim (.error .missingField) .ok

def requestCoverage (value : Term) : Except Fault RequestCoverage := do
  let fields ← asObject "RequestCertification" value
  let headers ← asTexts (← required fields "certified_request_headers")
  let parameters ← asTexts (← required fields "certified_query_parameters")
  return ⟨headers, parameters⟩

/-- The names of a header list, which counts as missing if it has none. -/
def headerNames : Option Term → Except Fault (Option (List String))
  | none => .ok none
  | some value => do
    let fields ← asObject "ResponseHeaderList" value
    match lookup? fields "headers" with
    | none => return none
    | some names => return some (← asTexts names)

def responseCoverage (value : Term) : Except Fault HeaderChoice := do
  let fields ← asObject "ResponseCertification" value
  let only? ← headerNames (lookup? fields "certified_response_headers")
  let allBut? ← headerNames (lookup? fields "response_header_exclusions")
  match only?, allBut? with
  | some names, none => return .only names
  | none, some names => return .allBut names
  | some _, some _ => throw .bothResponses
  | none, none => throw .neitherResponse

def partsCoverage (value : Term) : Except Fault Coverage := do
  let fields ← asObject "Certification" value
  let request? ←
    match lookup? fields "no_request_certification", lookup? fields "request_certification" with
    | some _, none => .ok none
    | none, some value => (requestCoverage value).map some
    | some _, some _ => .error .bothRequests
    | none, none => .error .neitherRequest
  let response ← responseCoverage (← required fields "response_certification")
  return .parts request? response

/-- The coverage that a term states. -/
def Coverage.ofTerm : Term → Except Fault Coverage
  | .call name arguments =>
    if name ≠ "default_certification" then .error .termName
    else
      match arguments with
      | [] => .error .missingArgument
      | first :: _ => do
        let fields ← asObject "ValidationArgs" first
        match lookup? fields "no_certification", lookup? fields "certification" with
        | some _, none => return .nothing
        | none, some value => partsCoverage value
        | some _, some _ => throw .bothKinds
        | none, none => throw .neitherKind
  | _ => .error .termKind

/-- The coverage that an expression states. -/
def Coverage.ofText (text : String) : Except Fault Coverage :=
  match read? text with
  | some root => Coverage.ofTerm root
  | none => .error .unreadable

end CanisterGateway.Certification.Expression
