import CanisterGateway.Candid.Wire
import CanisterGateway.Canister.Message

/-!
# The web interface of canisters

The arguments of the two methods that serve web content, and the response that they reply with, as
Candid messages.

A request is a record of a URL, a method, a body and headers; the query method also takes the
certificate version. Record fields are ordered by the numbers of their names, which puts the URL
first and the version last.

A response is read by the rules of subtyping. Status, headers and body have to be there. Upgrade
flag and streaming strategy are optional, so anything unsuitable in their place counts as nothing.
The token of a strategy is whatever value stands there; a missing one is null.

## Main results

* `argument_ofForUpdate` — what an update call sends does not depend on the certificate version.
-/

namespace CanisterGateway.Canister

open Candid (TypeRef TypeEntry TypeTable FunctionType fieldId)

/-! ## Arguments -/

/-- The code of a type without parts. -/
def textCode : UInt8 := 0x71

/-- A number of items, followed by them. -/
def counted (items : List Bytes) : Bytes :=
  Bytes.Leb128.encode items.length ++ items.flatten

/-- A text, or any byte string, after the number of its bytes. -/
def countedContent (content : Bytes) : Bytes :=
  Bytes.Leb128.encode content.length ++ content

/-- A field name and the code of the field's type. -/
def fieldCode (name : String) (type : UInt8) : Bytes :=
  Bytes.Leb128.encode (fieldId name) ++ [type]

/-- The fields that both methods take; the body has the type of entry one, the headers that of
entry two. -/
def commonFields : List Bytes :=
  [fieldCode "url" textCode, fieldCode "method" textCode, fieldCode "body" 1,
    fieldCode "headers" 2]

/-- The entries for byte strings, header lists and headers. -/
def commonEntries : List Bytes :=
  [[0x6D, 0x7B], [0x6D, 3], 0x6C :: counted [[0, textCode], [1, textCode]]]

/-- The types of the query method's argument. -/
def queryTypes : Bytes :=
  let record := 0x6C :: counted (commonFields ++ [fieldCode "certificate_version" 4])
  Candid.magic ++ counted (record :: commonEntries ++ [[0x6E, 0x7A]]) ++ counted [[0]]

/-- The types of the update method's argument. -/
def updateTypes : Bytes :=
  Candid.magic ++ counted ((0x6C :: counted commonFields) :: commonEntries) ++ counted [[0]]

namespace Request

/-- The values of the fields that both methods take. -/
def commonValues (request : Request) : Bytes :=
  countedContent (Bytes.ofText request.url) ++ countedContent (Bytes.ofText request.method)
    ++ countedContent request.body
    ++ counted (request.headers.map fun (name, value) =>
      countedContent (Bytes.ofText name) ++ countedContent (Bytes.ofText value))

/-- The value of the certificate version, which may be missing. -/
def versionValue : Option UInt16 → Bytes
  | none => [0]
  | some version => 1 :: Bytes.ofNatLE 2 version.toNat

/-- The argument of the query method. -/
def queryArgument (request : Request) : Bytes :=
  queryTypes ++ request.commonValues ++ versionValue request.certificateVersion?

/-- The argument of the update method. -/
def updateArgument (request : Request) : Bytes :=
  updateTypes ++ request.commonValues

theorem argument_ofForUpdate (request : Request) :
    request.forUpdate.updateArgument = request.updateArgument := rfl

end Request

/-- The name of the query method. -/
def queryMethod : String := "http_request"

/-- The name of the update method. -/
def updateMethod : String := "http_request_update"

/-! ## Callbacks -/

/-- Whether a wire type can stand for a byte string. -/
def isBlobType (table : TypeTable) (type : TypeRef) : Bool :=
  match table.entry? type with
  | some (.vec element) =>
    element = .primitive (.fixed .nat8) || element = .primitive .empty
  | _ => type = .primitive .empty

/-- Whether a wire type can stand for the next part of a body: a record with a body, in which a
token may or may not be. -/
def isPartType (table : TypeTable) (type : TypeRef) : Bool :=
  type = .primitive .empty
    || (table.fieldType? type (fieldId "body")).any (isBlobType table)

/-- Whether a function can be called with a token to get the next part of a body: it is a query, it
asks for nothing beyond the token, and its first result is the part. -/
def isCallbackType (table : TypeTable) (type : FunctionType) : Bool :=
  type.modes = [.query] && (type.arguments.drop 1).all table.mayBeMissing
    && (type.results.head?).any (isPartType table)

/-- The type of the callback in a response of the given type. -/
def callbackType? (table : TypeTable) (response : TypeRef) : Option FunctionType := do
  let strategy ← table.fieldType? response (fieldId "streaming_strategy")
  let callback ← table.variantType? (table.contentType strategy) (fieldId "Callback")
  match table.entry? (← table.fieldType? callback (fieldId "callback")) with
  | some (.func type) => some type
  | _ => none

/-! ## Responses -/

/-- The header that a value shows: a tuple of two texts, whatever follows them. -/
def header? : Candid.Value → Option Header
  | .record ((.id 0, .text name) :: (.id 1, .text value) :: rest) =>
    if rest.map (·.1) = (List.range' 2 rest.length).map Candid.Label.id then some (name, value)
    else none
  | _ => none

/-- The headers that a value shows. An empty byte string is an empty list like any other. -/
def headers? : Candid.Value → Option (List Header)
  | .vec items => items.mapM header?
  | .blob [] => some []
  | _ => none

def blob? : Candid.Value → Option Bytes
  | .blob bytes => some bytes
  | _ => none

def status? : Candid.Value → Option UInt16
  | .fixed .nat16 n => some (UInt16.ofNat n.toNat)
  | _ => none

def flag? : Candid.Value → Option Bool
  | .bool b => some b
  | _ => none

/-- The streaming strategy that a value shows, if it is one with a callback. -/
def streaming? : Candid.Value → Option Streaming
  | .variant tag strategy =>
    if tag = .id (fieldId "Callback") then
      match strategy.field? "callback" with
      | some (.func canister method) =>
        some ⟨canister, method, (strategy.field? "token").getD .null⟩
      | _ => none
    else none
  | _ => none

/-- The streaming strategy of a message, if its callback is of a type that can be called. -/
def streamingOf (message : Candid.Message) : Option Streaming := do
  let type ← callbackType? message.table message.type
  if !isCallbackType message.table type then none
  let strategy ← message.argument.field? "streaming_strategy"
  let content ← strategy.content?
  streaming? content

/-- The response that a message shows. -/
def Response.ofMessage? (message : Candid.Message) : Option Response := do
  let value := message.argument
  let statusCode ← status? (← value.field? "status_code")
  let headers ← headers? (← value.field? "headers")
  let body ← blob? (← value.field? "body")
  let upgrade? := do flag? (← (← value.field? "upgrade").content?)
  some ⟨statusCode, headers, body, upgrade?, streamingOf message⟩

/-- The response that bytes write. -/
def Response.ofBytes (bytes : Bytes) : Except Candid.Fault Response := do
  let message ← Candid.Message.ofBytes bytes
  (Response.ofMessage? message).elim (.error .typeMismatch) .ok

end CanisterGateway.Canister
