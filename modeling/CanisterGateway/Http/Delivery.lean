import CanisterGateway.Http.Head

/-!
# Responses on a connection

What goes out for a response: its status, its fields in the order of the header map, and its body.
Every body has a length, which is added at the end unless a field has it already. Some responses
have no body whatever was asked for: those to a request for the head alone, those to a request for
a tunnel, and those whose status says that there is nothing to send.

A connection that ends after the response says so, and one of the older version that goes on says
that. The values of the connection field, and those of the field of transfer codings, go out in
one line.
-/

namespace CanisterGateway.Http

/-- A response as it goes out. -/
structure Delivery where
  status : Status
  fields : List (String × Bytes)
  body : Bytes
  deriving DecidableEq

namespace Delivery

/-! ## What may be sent -/

/-- Whether a status is of the class of the given hundreds. -/
def isClass (status : Status) (hundreds : Nat) : Bool :=
  status.code / 100 = hundreds

/-- Whether a response may have a length. -/
def allowsLength (method : String) (status : Status) : Bool :=
  !(isClass status 1 || (method = "CONNECT" && isClass status 2) || status.code = 204
    || status.code = 304)

/-- Whether a response may have a body. -/
def allowsBody (method : String) (status : Status) : Bool :=
  method ≠ "HEAD" && allowsLength method status

/-! ## Fields -/

/-- A group of fields with one name in lower case. -/
structure Group where
  name : String
  values : List Bytes

/-- The values in one line. -/
def joined (values : List Bytes) : Bytes :=
  (Bytes.ofText ", ").intercalate values

/-- Puts a value in place of all values of a name. -/
def setGroup (name : String) (value : Bytes) : List Group → List Group
  | [] => [⟨name, [value]⟩]
  | group :: rest =>
    if group.name = name then ⟨name, [value]⟩ :: rest else group :: setGroup name value rest

/-- The groups of a map with what is said of the connection. -/
def connectionGroups (head : Head) (groups : List Group) : List Group :=
  let announced := (groups.find? (·.name = "connection")).bind (·.values.head?)
  match head.version, head.persistent with
  | .http11, false => setGroup "connection" (Bytes.ofText "close") groups
  | .http10, true =>
    if announced.any (listsItem · "keep-alive") then groups
    else setGroup "connection" (Bytes.ofText "keep-alive") groups
  | _, _ => groups

/-- The transfer codings, of which the last has to be that of chunks. -/
def codings (values : List Bytes) : Bytes :=
  let chunked := (values.getLast?.bind fun value => (listedItems value).getLast?).any
    (sameName · "chunked")
  joined (if chunked then values else values ++ [Bytes.ofText "chunked"])

/-- The lines of a group. A length goes out once, and only if there is something to measure. -/
def groupFields (head : Head) (response : Response) (group : Group) : List (String × Bytes) :=
  let method := head.request.method.text
  match group.name with
  | "content-length" =>
    if !response.body.isEmpty then group.values.head?.toList.map (group.name, ·)
    else if method = "HEAD" then group.values.map (group.name, ·)
    else []
  | "transfer-encoding" =>
    if head.version = .http11 && allowsBody method response.status then
      [(group.name, codings group.values)]
    else []
  | "connection" => [(group.name, joined group.values)]
  | _ => group.values.map (group.name, ·)

/-- The length of a response whose fields do not have it. -/
def lengthFields (method : String) (response : Response) (fields : List (String × Bytes)) :
    List (String × Bytes) :=
  let measured := fields.any fun (name, _) => name = "content-length" || name = "transfer-encoding"
  let allowed :=
    if response.body.isEmpty then allowsBody method response.status
    else allowsLength method response.status
  if measured || !allowed then []
  else [("content-length", Bytes.ofText (toString response.body.length))]

/-! ## Deliveries -/

/-- What goes out for a response. A status of the first class is not a response yet, and stands
for a failure of the server, unless it ends the protocol itself. -/
def ofResponse (head : Head) (response : Response) : Delivery :=
  let method := head.request.method.text
  let groups := response.headers.groups.map fun group =>
    Group.mk group.name.text (group.values.toList.map (·.bytes))
  if isClass response.status 1 && response.status.code ≠ 101 then
    ⟨.internalServerError, lengthFields method ⟨.internalServerError, .empty, []⟩ [], []⟩
  else
    let fields := (connectionGroups head groups).flatMap (groupFields head response)
    ⟨response.status, fields ++ lengthFields method response fields,
      if allowsBody method response.status then response.body else []⟩

/-- The bytes of a line. -/
def lineBytes (line : Bytes) : Bytes :=
  line ++ [carriageReturn, lineFeed]

/-- The line of a field. -/
def fieldBytes (field : String × Bytes) : Bytes :=
  lineBytes (Bytes.ofText (field.1 ++ ": ") ++ field.2)

/-- A body in one chunk, and the end. -/
def inChunks (body : Bytes) : Bytes :=
  let size (n : Nat) : Bytes := lineBytes (Bytes.ofText (String.ofList (Nat.toDigits 16 n)))
  (if body.isEmpty then [] else size body.length ++ lineBytes body) ++ size 0 ++ lineBytes []

/-- All bytes of a response. -/
def bytes (delivery : Delivery) : Bytes :=
  let status := delivery.status.code
  let reason := (Status.reason? status).getD "<none>"
  let coded := delivery.fields.any (·.1 = "transfer-encoding")
  lineBytes (Bytes.ofText ("HTTP/1.1 " ++ toString status ++ " " ++ reason))
    ++ delivery.fields.flatMap fieldBytes ++ lineBytes []
    ++ (if coded then inChunks delivery.body else delivery.body)

/-- What goes out for a head that cannot be read. -/
def ofFault (status : Status) : Delivery :=
  ⟨status, [("connection", Bytes.ofText "close"), ("content-length", Bytes.ofText "0")], []⟩

end Delivery
end CanisterGateway.Http
