import CanisterGateway.Bytes.Leb128
import CanisterGateway.Canister.Message
import CanisterGateway.Certification.Expression
import CanisterGateway.Hash.Sha256

/-!
# Fingerprints of requests and responses

What a certificate vouches for are digests of the covered parts of a request and of a response. The
parts are named values; their digest does not depend on the order in which they are listed.
-/

namespace CanisterGateway.Certification

/-- The header that carries certificate, tree and path. -/
def certificateHeader : String := "ic-certificate"

/-- The header that carries the expression. -/
def expressionHeader : String := "ic-certificateexpression"

/-- The digest of a text. -/
def textDigest (text : String) : Bytes :=
  Hash.Sha256.digest (Bytes.ofText text)

/-- The digest of a number, in groups of seven bits. -/
def numberDigest (n : Nat) : Bytes :=
  Hash.Sha256.digest (Bytes.Leb128.encode n)

/-- The digest of named values: that of the sorted digests of names and values. -/
def mapDigest (entries : List (String × Bytes)) : Bytes :=
  let pairs := entries.map fun (name, valueDigest) => textDigest name ++ valueDigest
  Hash.Sha256.digest (pairs.mergeSort fun a b => !Bytes.lt b a).flatten

/-- The digest of named values and a body. -/
def messageDigest (entries : List (String × Bytes)) (body : Bytes) : Bytes :=
  Hash.Sha256.digest (mapDigest entries ++ Hash.Sha256.digest body)

/-- Whether a list of names has the name, in whatever case. -/
def lists (names : List String) (name : String) : Bool :=
  names.any (Http.sameName · name)

/-! ## Requests -/

/-- The covered parts of a query: those of the listed parameters. -/
def coveredQuery (parameters : List String) (query : String) : String :=
  let parts := (query.splitOn "&").filter fun part =>
    lists parameters (String.ofList (part.toList.takeWhile (· ≠ '=')))
  "&".intercalate parts

/-- The digest of the covered parts of a request with the given query. -/
def requestDigest (coverage : Expression.RequestCoverage) (request : Canister.Request)
    (query? : Option String) : Bytes :=
  let headers := (request.headers.filter fun (name, _) => lists coverage.headers name).map
    fun (name, value) => (Http.lowerText name, textDigest value)
  let method := (":ic-cert-method", textDigest request.method)
  let query := query?.toList.map fun query =>
    (":ic-cert-query", textDigest (coveredQuery coverage.parameters query))
  messageDigest (headers ++ [method] ++ query) request.body

/-! ## Responses -/

/-- Whether a response header is covered, by its name in lower case. -/
def Expression.HeaderChoice.selects (choice : Expression.HeaderChoice) (name : String) : Bool :=
  if name = certificateHeader then false
  else if name = expressionHeader then true
  else
    match choice with
    | .only names => lists names name
    | .allBut names => !lists names name

/-- The covered headers of a response, with their names in lower case. -/
def coveredHeaders (choice : Expression.HeaderChoice) (response : Canister.Response) :
    List Canister.Header :=
  (response.headers.map fun (name, value) => (Http.lowerText name, value)).filter
    fun (name, _) => choice.selects name

/-- The digest of the covered headers, the status and the body of a response. -/
def responseDigest (headers : List Canister.Header) (response : Canister.Response) : Bytes :=
  let headers := headers.map fun (name, value) => (name, textDigest value)
  let status := (":ic-cert-status", numberDigest response.statusCode.toNat)
  messageDigest (headers ++ [status]) response.body

end CanisterGateway.Certification
