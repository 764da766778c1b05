import CanisterGateway.Http.HeaderMap
import CanisterGateway.Http.Target

/-!
# Statuses, requests and responses

A request or response is built from texts, part by part: the first part that is not admissible is
the fault of the whole. A request names its method first, then its target, then its headers one by
one; a response names its status first and then its headers.

## Main results

* `addFields_append` — headers are added from left to right, and the first fault ends the work.
-/

namespace CanisterGateway.Http

/-! ## Statuses -/

/-- A status code of three digits. -/
structure Status where
  code : Nat
  code_ge : 100 ≤ code
  code_lt : code < 1000
  deriving DecidableEq

namespace Status

def ofNat? (code : Nat) : Option Status :=
  if h : 100 ≤ code ∧ code < 1000 then some ⟨code, h.1, h.2⟩ else none

/-- The wording of the fault of a code that is no status. -/
def faultMessage : String := "invalid status code"

def badRequest : Status := ⟨400, by decide, by decide⟩
def notFound : Status := ⟨404, by decide, by decide⟩
def internalServerError : Status := ⟨500, by decide, by decide⟩
def badGateway : Status := ⟨502, by decide, by decide⟩
def insufficientStorage : Status := ⟨507, by decide, by decide⟩

/-- The registered reason of a status code. -/
def reason? : Nat → Option String
  | 100 => some "Continue"
  | 101 => some "Switching Protocols"
  | 102 => some "Processing"
  | 103 => some "Early Hints"
  | 200 => some "OK"
  | 201 => some "Created"
  | 202 => some "Accepted"
  | 203 => some "Non Authoritative Information"
  | 204 => some "No Content"
  | 205 => some "Reset Content"
  | 206 => some "Partial Content"
  | 207 => some "Multi-Status"
  | 208 => some "Already Reported"
  | 226 => some "IM Used"
  | 300 => some "Multiple Choices"
  | 301 => some "Moved Permanently"
  | 302 => some "Found"
  | 303 => some "See Other"
  | 304 => some "Not Modified"
  | 305 => some "Use Proxy"
  | 307 => some "Temporary Redirect"
  | 308 => some "Permanent Redirect"
  | 400 => some "Bad Request"
  | 401 => some "Unauthorized"
  | 402 => some "Payment Required"
  | 403 => some "Forbidden"
  | 404 => some "Not Found"
  | 405 => some "Method Not Allowed"
  | 406 => some "Not Acceptable"
  | 407 => some "Proxy Authentication Required"
  | 408 => some "Request Timeout"
  | 409 => some "Conflict"
  | 410 => some "Gone"
  | 411 => some "Length Required"
  | 412 => some "Precondition Failed"
  | 413 => some "Payload Too Large"
  | 414 => some "URI Too Long"
  | 415 => some "Unsupported Media Type"
  | 416 => some "Range Not Satisfiable"
  | 417 => some "Expectation Failed"
  | 418 => some "I'm a teapot"
  | 421 => some "Misdirected Request"
  | 422 => some "Unprocessable Entity"
  | 423 => some "Locked"
  | 424 => some "Failed Dependency"
  | 425 => some "Too Early"
  | 426 => some "Upgrade Required"
  | 428 => some "Precondition Required"
  | 429 => some "Too Many Requests"
  | 431 => some "Request Header Fields Too Large"
  | 451 => some "Unavailable For Legal Reasons"
  | 500 => some "Internal Server Error"
  | 501 => some "Not Implemented"
  | 502 => some "Bad Gateway"
  | 503 => some "Service Unavailable"
  | 504 => some "Gateway Timeout"
  | 505 => some "HTTP Version Not Supported"
  | 506 => some "Variant Also Negotiates"
  | 507 => some "Insufficient Storage"
  | 508 => some "Loop Detected"
  | 510 => some "Not Extended"
  | 511 => some "Network Authentication Required"
  | _ => none

end Status

/-! ## Faults -/

/-- Why a message cannot be built. -/
inductive Fault
  | method
  | target (fault : TargetFault)
  | headerName
  | headerValue
  | headerCapacity
  /-- Any other reason, known by its wording. -/
  | other (text : String)
  deriving DecidableEq

/-- The wording of a fault. -/
def Fault.message : Fault → String
  | method => "invalid HTTP method"
  | target fault => fault.message
  | headerName => "invalid HTTP header name"
  | headerValue => "failed to parse header value"
  | headerCapacity => "max size reached"
  | other text => text

/-! ## Headers -/

/-- A header as it is written: a name in any case and a value in bytes. -/
abbrev RawField := String × Bytes

/-- Adds a written header to a map. -/
def HeaderMap.add (map : HeaderMap) (field : RawField) : Except Fault HeaderMap :=
  match HeaderName.ofText? field.1 with
  | none => .error .headerName
  | some name =>
    match HeaderValue.ofBytes? field.2 with
    | none => .error .headerValue
    | some value =>
      match map.append? name value with
      | none => .error .headerCapacity
      | some map => .ok map

/-- Adds written headers from left to right, up to the first fault. -/
def HeaderMap.addFields (map : HeaderMap) (fields : List RawField) : Except Fault HeaderMap :=
  fields.foldlM HeaderMap.add map

theorem HeaderMap.addFields_append (map : HeaderMap) (first second : List RawField) :
    map.addFields (first ++ second) = (map.addFields first).bind (·.addFields second) := by
  simp only [addFields, List.foldlM_append]
  rfl

/-! ## Requests and responses -/

/-- A request whose body has been read to its end. -/
structure Request where
  method : Method
  target : Target
  headers : HeaderMap
  body : Bytes
  deriving DecidableEq

/-- A response with its whole body. -/
structure Response where
  status : Status
  headers : HeaderMap
  body : Bytes
  deriving DecidableEq

/-- Builds a request from its parts. -/
def Request.build (method : String) (target : Bytes) (fields : List RawField) (body : Bytes) :
    Except Fault Request := do
  let method ← (Method.ofText? method).elim (.error .method) .ok
  let target ← (Target.read .international target).mapError .target
  let headers ← HeaderMap.empty.addFields fields
  return ⟨method, target, headers, body⟩

/-- A response without headers whose body is a text. -/
def Response.ofText (status : Status) (text : String) : Response :=
  ⟨status, .empty, Bytes.ofText text⟩

end CanisterGateway.Http
