import CanisterGateway.Certification.HashTree

/-!
# Expression paths

A canister certifies a response under a path of the hash tree: the parts of the request path and a
last segment that says whether the entry stands for that path alone (`<$>`) or for everything
below it (`<*>`). A wildcard may answer a request only if the tree shows that there is no exact
entry for it and no wildcard closer to it.

A trailing slash counts as an empty last segment; empty segments in between are dropped.
-/

namespace CanisterGateway.Certification

/-- A path of the tree, by segments. -/
abbrev Segments := List String

/-- The first segment of every expression path. -/
def rootSegment : String := "http_expr"

/-- The last segment of an exact path. -/
def exactSegment : String := "<$>"

/-- The last segment of a wildcard path. -/
def wildcardSegment : String := "<*>"

/-- The labels of segments. -/
def Segments.labels (segments : Segments) : List Bytes :=
  segments.map Bytes.ofText

/-- The parts of a text between slashes. -/
def slashParts : List Char → List (List Char)
  | [] => [[]]
  | c :: rest =>
    match slashParts rest with
    | [] => [[c]]
    | part :: parts => if c = '/' then [] :: part :: parts else (c :: part) :: parts

/-- The segments of a request path. -/
def requestSegments (path : String) : Segments :=
  let parts := (slashParts path.toList).filter (!·.isEmpty)
  rootSegment :: parts.map String.ofList ++ (if path.toList.getLast? = some '/' then [""] else [])

/-- Whether a path begins with the given segments, of which an empty last one may be left out. -/
def isBeginning (segments path : Segments) : Bool :=
  segments.isPrefixOf path
    || (segments.getLast? == some "" && segments.dropLast.isPrefixOf path)

/-! ## Closer wildcards -/

/-- The inner segments of an expression path: without the root, without a last segment that marks
its kind, and without an empty first one if others are left. -/
def innerSegments (path : Segments) : Segments :=
  let path := if path.head? = some rootSegment then path.drop 1 else path
  let path := if path.getLast? = some wildcardSegment || path.getLast? = some exactSegment then
    path.dropLast else path
  if path.length > 1 && path.head? = some "" then path.drop 1 else path

/-- The paths from a request's inner segments up to those of the wildcard that answers it: each
segment is first replaced by an empty one and then dropped. -/
def ascend (answer : Segments) : (limit : Nat) → (request : Segments) → List Segments
  | 0, _ => []
  | limit + 1, request =>
    if request.length > answer.length || request.getLast? ≠ answer.getLast? then
      request :: ascend answer limit
        (if request.getLast? = some "" then request.dropLast else request.dropLast ++ [""])
    else []

/-- The wildcards that are closer to a request than the one that answers it. -/
def closerWildcards (request answer : Segments) : List Segments :=
  let request := innerSegments request
  let answer := innerSegments answer
  let answer := if isBeginning answer request then answer else []
  (ascend answer (2 * request.length + 2) request).map (· ++ [wildcardSegment])

/-! ## The check of a path -/

/-- Why an expression path does not answer a request. -/
inductive PathFault
  | rootMissing (provided : Segments)
  | kindMissing (provided : Segments)
  | exactNotFound (provided : Segments)
  | exactMismatch (provided : Segments) (request : String)
  | exactPossible (provided exact : Segments) (request : String)
  | wildcardNotFound (provided : Segments) (request : String)
  | wildcardMismatch (provided : Segments) (request : String)
  | closerPossible (provided closer : Segments) (request : String)
  deriving DecidableEq

/-- Checks that a wildcard path may answer a request. -/
def checkWildcard (tree : HashTree) (provided : Segments) (request : String) :
    Except PathFault Unit := do
  let segments := requestSegments request
  let exact := segments ++ [exactSegment]
  if !tree.excludes exact.labels then throw (.exactPossible provided exact request)
  if !isBeginning provided.dropLast segments then
    throw (.wildcardMismatch provided.dropLast request)
  for closer in (closerWildcards segments provided).map (rootSegment :: ·) do
    if !tree.excludes (Segments.labels closer) then
      throw (.closerPossible provided closer request)
  if !tree.contains provided.labels then throw (.wildcardNotFound provided request)

/-- Checks that an expression path may answer a request. -/
def checkPath (tree : HashTree) (provided : Segments) (request : String) :
    Except PathFault Unit := do
  if provided.head? ≠ some rootSegment then throw (.rootMissing provided)
  let last? := provided.getLast?
  if last? ≠ some exactSegment && last? ≠ some wildcardSegment then throw (.kindMissing provided)
  let exact := requestSegments request ++ [exactSegment]
  if provided = exact then
    if !tree.contains provided.labels then throw (.exactNotFound provided)
  else if last? = some exactSegment then throw (.exactMismatch provided (String.join exact))
  else checkWildcard tree provided request

/-- The segments that bytes write, an array of strings. -/
def readSegments (bytes : Bytes) : Except Cbor.Fault Segments := do
  match ← Cbor.read bytes with
  | .array items => items.mapM fun
    | .bytes content => (Bytes.Utf8.decode? content).elim (.error .encoding) .ok
    | _ => .error .unexpectedType
  | _ => throw .unexpectedType

end CanisterGateway.Certification
