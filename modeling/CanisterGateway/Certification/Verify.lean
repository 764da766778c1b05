import CanisterGateway.Certification.Certificate
import CanisterGateway.Certification.ExpressionPath
import CanisterGateway.Certification.Fingerprint
import CanisterGateway.Certification.Statement
import CanisterGateway.Compression.ContentCoding
import CanisterGateway.Text.Escaped

/-!
# Response verification

Decides whether a response is the canister's certified answer to a request. The certification
header of the response brings a hash tree, a certificate for its root digest, and a version.

* Under version one the tree vouches for the body alone.
* Under version two the tree vouches for what the response's certification expression covers, and
  only that part of the response is served. An expression may also say that nothing is covered,
  which makes the whole response servable.

The faults come in a fixed order; the first one is reported.
-/

namespace CanisterGateway.Certification

/-- Why a response is not served. -/
inductive Fault
  | coding (message : String)
  | unsupportedVersion (least greatest requested : Nat)
  | versionTooLow (least requested : Nat)
  | expression (fault : Expression.Fault)
  | base64
  | number
  | root
  | path (fault : PathFault)
  | noSuchExpression
  | body
  | digests
  | noCertificate
  | noTree
  | noPath
  | noExpression
  | noCertification
  | encoding (fault : Cbor.Fault)
  | certificate (fault : CertificateFault)
  | url (text : String)
  | urlText (fault : Bytes.Utf8.Fault)
  /-- Any other reason, known by its wording. -/
  | other (text : String)
  deriving DecidableEq

/-- How messages about expression paths begin. -/
def providedText (provided : Segments) : String :=
  "provided by the \"IC-Certificate\" response header (" ++ Text.quotedList provided ++ ")"

/-- The wording of a fault of an expression path. -/
def PathFault.message : PathFault → String
  | rootMissing p =>
    "The expression path " ++ providedText p
      ++ " has an unexpected prefix and should start with \"http_expr"
  | kindMissing p =>
    "The expression path " ++ providedText p
      ++ " has an unexpected suffix and should end with \"<$>\" or \"<*>"
  | exactNotFound p => "The exact expression path " ++ providedText p ++ " was not found in the tree"
  | exactMismatch p request =>
    "The exact expression path " ++ providedText p ++ " is not valid for the request path ("
      ++ Text.quoted request ++ ")"
  | exactPossible p exact request =>
    "A wildcard expression path was " ++ providedText p
      ++ ", but a potential exact expression path (" ++ Text.quotedList exact
      ++ ") is valid for the request path (" ++ Text.quoted request
      ++ ") and might exist in the tree"
  | wildcardNotFound p request =>
    "The wildcard expression path " ++ providedText p ++ " is valid for the request path ("
      ++ Text.quoted request ++ "), but was not found in the tree"
  | wildcardMismatch p request =>
    "The wildcard expression path " ++ providedText p ++ " is not valid for the request path ("
      ++ Text.quoted request ++ ")"
  | closerPossible p closer request =>
    "A more specific wildcard expression path (" ++ Text.quotedList closer ++ ") than the one "
      ++ providedText p ++ " that is valid for the request path (" ++ Text.quoted request
      ++ ") might exist in the tree"

/-- The wording of a fault. -/
def Fault.message : Fault → String
  | coding message => "IO error: \"" ++ message ++ "\""
  | unsupportedVersion least greatest requested =>
    s!"The requested verification version {requested} is not supported, "
      ++ s!"the current supported range is {least}-{greatest}"
  | versionTooLow least requested =>
    s!"The requested verification version {requested} is lower than "
      ++ s!"the minimum requested version {least}"
  | expression _ => "Cel parser error"
  | base64 => "Base64 decoding error"
  | number => "Error parsing int"
  | root => "Invalid tree root hash"
  | path fault => fault.message
  | noSuchExpression => "Invalid expression path"
  | body => "Invalid response body"
  | digests => "Invalid response hashes"
  | noCertificate => "Certificate not found"
  | noTree => "Tree not found"
  | noPath => "Certificate expression path not found"
  | noExpression => "Certificate expression not found"
  | noCertification => "Certification values not found"
  | encoding _ => "CBOR decoding failed"
  | certificate _ => "Certificate verification failed"
  | url text => "HTTP Certification error: \"Failed to parse url: \"" ++ text ++ "\"\""
  | urlText fault =>
    "HTTP Certification error: \"Error converting UTF8 string bytes: \"" ++ fault.message ++ "\"\""
  | other text => text

/-! ## Verdicts -/

/-- The certified part of a response. Version one certifies no status. -/
structure CertifiedPart where
  statusCode? : Option UInt16
  headers : List Canister.Header
  body : Bytes
  deriving DecidableEq

/-- The verdict on an accepted response: the version of its certification, and what of it is
certified, or nothing in particular if it may be served whole. -/
structure Acceptance where
  version : UInt16
  part? : Option CertifiedPart
  deriving DecidableEq

/-- The bounds within which a response is trusted. -/
structure TrustBounds where
  canisterId : Bytes
  rootKey : Bytes
  timeDistance : Nat
  leastVersion : UInt8
  deriving DecidableEq

/-- A check that reports a fault or ends without a verdict. -/
abbrev Check (α : Type) := Except (Stop Fault) α

/-- Reports a fault. -/
def reject {α : Type} (fault : Fault) : Check α := .error (.fault fault)

/-! ## Parts of the check -/

/-- The last header with a name in lower case. -/
def lastHeader? (headers : List Canister.Header) (name : String) : Option String :=
  (headers.reverse.find? fun header => Http.lowerText header.1 = name).map (·.2)

/-- The target of a request's URL. -/
def requestTarget (request : Canister.Request) : Check Http.Target :=
  match Http.Target.read .ascii (Bytes.ofText request.url) with
  | .ok target => .ok target
  | .error _ => reject (.url request.url)

/-- The path of a target without escapes. -/
def requestPath (target : Http.Target) : Check String :=
  let bytes := Text.unescape target.path.toList
  match Bytes.Utf8.decode? bytes, Bytes.Utf8.fault? bytes with
  | some path, _ => .ok path
  | none, some fault => reject (.urlText fault)
  | none, none => reject (.urlText ⟨0, none⟩)

/-- Checks the certificate, with the faults of the whole check. -/
def checkCertificate (certificate : Certificate) (bounds : TrustBounds) (now : Nat) : Check Unit :=
  (certificate.check bounds.canisterId bounds.rootKey now bounds.timeDistance).mapError fun
    | .fault fault => .fault (.certificate fault)
    | .aborted => .aborted

/-- Checks that the certificate names the tree's digest as the canister's data. -/
def checkRoot (certificate : Certificate) (tree : HashTree) (canisterId : Bytes) : Check Unit :=
  let path := [Bytes.ofText "canister", canisterId, Bytes.ofText "certified_data"]
  if certificate.tree.leaf? path = some tree.digest then .ok () else reject .root

/-! ## Version one -/

/-- The label below which version one keeps digests of bodies. -/
def assetsLabel : Bytes := Bytes.ofText "http_assets"

/-- The digest that a tree names for a path, or else for the index page. -/
def assetDigest? (tree : HashTree) (path : String) : Option Bytes :=
  (tree.leaf? [assetsLabel, Bytes.ofText path]).or
    (tree.leaf? [assetsLabel, Bytes.ofText "/index.html"])

/-- The check under version one, which certifies the body. -/
def verifyBody (request : Canister.Request) (response : Canister.Response) (bounds : TrustBounds)
    (now : Nat) (tree : HashTree) (certificate : Certificate) : Check Acceptance := do
  checkCertificate certificate bounds now
  let path ← requestPath (← requestTarget request)
  let coding? := lastHeader? response.headers "content-encoding"
  let decoded ← (Compression.decodeBody coding? response.body).mapError
    fun fault => .fault (.coding fault.message)
  checkRoot certificate tree bounds.canisterId
  match assetDigest? tree path with
  | none => reject .body
  | some digest =>
    if digest = Hash.Sha256.digest decoded
        || (coding?.isSome && digest = Hash.Sha256.digest response.body) then
      return ⟨1, some ⟨none, [], response.body⟩⟩
    else reject .body

/-! ## Version two -/

/-- Checks the digests of the covered parts below the expression's own digest. -/
def checkDigests (tree : HashTree) (path : List Bytes) (request? : Option Bytes)
    (response : Bytes) : Check Unit :=
  if tree.leaf? (path ++ [request?.getD [], response]) = some [] then .ok () else reject .digests

/-- The check under version two, which certifies what the expression covers. -/
def verifyParts (request : Canister.Request) (response : Canister.Response) (bounds : TrustBounds)
    (now : Nat) (tree : HashTree) (certificate : Certificate) (header : String)
    (path? : Option Bytes) : Check Acceptance := do
  let some expression := lastHeader? response.headers expressionHeader
    | reject .noCertification
  let some pathBytes := path? | reject .noPath
  let segments ← (readSegments pathBytes).mapError (.fault ∘ .encoding)
  let coverage ← (Expression.Coverage.ofText expression).mapError (.fault ∘ .expression)
  let target ← requestTarget request
  let requested ← requestPath target
  checkCertificate certificate bounds now
  checkRoot certificate tree bounds.canisterId
  (checkPath tree segments requested).mapError (.fault ∘ .path)
  let path := segments.labels ++ [textDigest expression]
  match coverage with
  | .nothing => if tree.contains path then return ⟨2, none⟩ else reject .noSuchExpression
  | .parts request? choice =>
    let requestDigest? := request?.map (requestDigest · request target.query?)
    let headers := coveredHeaders choice response
    checkDigests tree path requestDigest? (responseDigest headers response)
    return ⟨2, some ⟨some response.statusCode, headers ++ [("IC-Certificate", header)],
      response.body⟩⟩

/-! ## The check -/

/-- The greatest version of certification that can be checked. -/
def greatestVersion : UInt8 := 2

/-- Decides whether a response is the certified answer to a request, at a given time. -/
def verify (request : Canister.Request) (response : Canister.Response) (bounds : TrustBounds)
    (now : Nat) : Check Acceptance := do
  let some header := lastHeader? response.headers certificateHeader | reject .noCertification
  let statement ← (Statement.ofText header).mapError fun
    | .base64 => .fault .base64
    | .number => .fault .number
  let some treeBytes := statement.tree? | reject .noTree
  let tree ← (HashTree.ofBytes treeBytes).mapError (.fault ∘ .encoding)
  let some certificateBytes := statement.certificate? | reject .noCertificate
  let certificate ← (Certificate.ofBytes certificateBytes).mapError (.fault ∘ .encoding)
  let version := statement.version?.getD 1
  if version < bounds.leastVersion then
    reject (.versionTooLow bounds.leastVersion.toNat version.toNat)
  else if version = 1 then verifyBody request response bounds now tree certificate
  else if version = 2 then
    verifyParts request response bounds now tree certificate header statement.path?
  else reject (.unsupportedVersion 1 greatestVersion.toNat version.toNat)

end CanisterGateway.Certification
