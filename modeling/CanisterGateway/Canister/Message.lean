import CanisterGateway.Candid.Value
import CanisterGateway.Http.Message

/-!
# What canisters are asked and what they answer

A canister that serves web content has a query method and an update method for requests. Both take
the request as a record of texts and bytes; the query also learns the highest version of response
certification that the gateway understands. The answer is a response, which may ask for the request
to be replayed as an update, and may name a callback that yields the rest of its body.

Canisters know no host names: a request's URL is the path and query of its target.
-/

namespace CanisterGateway.Canister

/-- A header as canisters see it: two texts. -/
abbrev Header := String × String

/-- A request in the shape that canisters expect. -/
structure Request where
  url : String
  method : String
  body : Bytes
  headers : List Header
  certificateVersion? : Option UInt16
  deriving DecidableEq

/-- The callback that yields the next part of a body, and the token to call it with. -/
structure Streaming where
  canister : Principal
  method : String
  token : Candid.Value

/-- A response as canisters give it. -/
structure Response where
  statusCode : UInt16
  headers : List Header
  body : Bytes
  upgrade? : Option Bool
  streaming? : Option Streaming

namespace Request

/-- The request that is replayed as an update call, which negotiates no version. -/
def forUpdate (request : Request) : Request :=
  { request with certificateVersion? := none }

/-- A header value as a text; bytes that are no UTF-8 are replaced. -/
def header (field : Http.HeaderField) : Header :=
  (field.1.text, Bytes.Utf8.decodeLossy field.2.bytes)

/-- The request that a canister is asked with a query. -/
def ofHttp (request : Http.Request) (certificateVersion : UInt16) : Request where
  url := Http.Resource.text ⟨request.target.path, request.target.query?⟩
  method := request.method.text
  body := request.body
  headers := request.headers.toList.map header
  certificateVersion? := some certificateVersion

end Request

/-- Whether the canister asks for the request to be replayed as an update call. -/
def Response.isUpgrade (response : Response) : Bool :=
  response.upgrade? == some true

end CanisterGateway.Canister
