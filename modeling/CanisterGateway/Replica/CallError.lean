import CanisterGateway.Bytes.Utf8
import CanisterGateway.Candid.Value
import CanisterGateway.Http.Message

/-!
# Why a call fails

A call to a canister goes over a replica, and can fail at every station: before it is sent, on the
way, by a rejection of the replica or the canister, or when what comes back cannot be trusted or
read. A rejection may come with a certificate or without one, and carries one of five codes.

`CallError.message` is what an operator reads.
-/

namespace CanisterGateway.Replica

/-! ## Rejections -/

/-- Whose fault a rejection is, and whether trying again may help. -/
inductive RejectCode
  | sysFatal
  | sysTransient
  | destinationInvalid
  | canisterReject
  | canisterError
  deriving DecidableEq

namespace RejectCode

def ofNat? : Nat → Option RejectCode
  | 1 => some sysFatal
  | 2 => some sysTransient
  | 3 => some destinationInvalid
  | 4 => some canisterReject
  | 5 => some canisterError
  | _ => none

def toNat : RejectCode → Nat
  | sysFatal => 1
  | sysTransient => 2
  | destinationInvalid => 3
  | canisterReject => 4
  | canisterError => 5

def name : RejectCode → String
  | sysFatal => "SysFatal"
  | sysTransient => "SysTransient"
  | destinationInvalid => "DestinationInvalid"
  | canisterReject => "CanisterReject"
  | canisterError => "CanisterError"

end RejectCode

/-- A rejection of a call. -/
structure Reject where
  code : RejectCode
  message : String
  errorCode? : Option String
  deriving DecidableEq

/-! ## Failed exchanges with a replica -/

/-- An answer of a replica that is no success. -/
structure FailedExchange where
  status : Nat
  contentType? : Option String
  content : Bytes
  deriving DecidableEq

namespace FailedExchange

/-- A status with its reason, as far as it is one. -/
def statusText (status : Nat) : String :=
  match Http.Status.ofNat? status with
  | none => toString status
  | some _ => toString status ++ " " ++ (Http.Status.reason? status).getD "<unknown status code>"

/-- The content as text, or else the list of its bytes. -/
def contentText (content : Bytes) : String :=
  (Bytes.Utf8.decode? content).getD
    ("(unable to decode content as UTF-8: " ++ Text.byteList content ++ ")")

def message (failure : FailedExchange) : String :=
  "Http Error: status " ++ statusText failure.status ++ ", content type "
    ++ Text.quoted (failure.contentType?.getD "") ++ ", content: " ++ contentText failure.content

end FailedExchange

/-! ## Call errors -/

/-- Why a call has no answer. -/
inductive CallError
  | rejected (certified : Bool) (reject : Reject)
  | replyTooLarge
  | timeout
  | replicaStatus
  | noRootKey
  | certificateInvalid
  | querySignatureInvalid
  | certificateNotAuthorized
  | nestedDelegation
  | missingSignature
  | malformedSignature
  | malformedPublicKey
  | missingTransport
  | replicaUrl (text : String)
  | signing (text : String)
  | tool (text : String)
  | noReply (requestId : String)
  | routing (text : String)
  | replicaResponse (text : String)
  | transport (text : String)
  | walletForward (text : String)
  | walletOperation (text : String)
  | walletUpgrade (text : String)
  | tooManySignatures (had needed : Nat)
  | keyLength (expected actual : Nat)
  | keyHeader (expected actual : Bytes)
  | callMismatch (field argument encoded : String)
  | exchange (failure : FailedExchange)
  | principal (fault : Principal.Fault)
  | encoding (fault : Bytes.Utf8.Fault)
  | rejectCode (code : Nat)
  | candid (fault : Candid.Fault)
  | cbor
  /-- Any other failure, known by its wording. -/
  | other (text : String)
  deriving DecidableEq

/-- What a replica without a root key says of itself. -/
def statusText : String :=
  "\x7b\n  \"impl_version\": \"0.1\"\n\x7d"

/-- The wording of an error. -/
def CallError.message : CallError → String
  | rejected _ reject =>
    "The replica returned a rejection error: reject code " ++ reject.code.name
      ++ ", reject message " ++ reject.message ++ ", error code "
      ++ Text.quotedOption reject.errorCode?
  | replyTooLarge => "Response size exceeded limit."
  | timeout => "The request timed out."
  | replicaStatus => "Status endpoint returned an invalid status."
  | noRootKey => "The status response did not contain a root key.  Status: " ++ statusText
  | certificateInvalid => "Certificate verification failed."
  | querySignatureInvalid => "Query signature verification failed."
  | certificateNotAuthorized =>
    "Certificate is not authorized to respond to queries for this canister. "
      ++ "While developing: Did you forget to set effective_canister_id?"
  | nestedDelegation => "The certificate contained more than one delegation"
  | missingSignature => "Query response did not contain any node signatures"
  | malformedSignature => "Query response contained a malformed signature"
  | malformedPublicKey => "Read state response contained a malformed public key"
  | missingTransport => "Missing replica transport in the Agent Builder."
  | replicaUrl text => "Invalid Replica URL: \"" ++ text ++ "\""
  | signing text => "Identity had a signing error: " ++ text
  | tool text => "A tool returned a string message error: " ++ text
  | noReply requestId =>
    "Call was marked as done but we never saw the reply. Request ID: " ++ requestId
  | routing text => "Route provider failed to generate url: " ++ text
  | replicaResponse text => "Invalid HTTP response: " ++ text
  | transport text => "An error happened during communication with the replica: " ++ text
  | walletForward text =>
    "The invocation to the wallet call forward method failed with the error: " ++ text
  | walletOperation text => "The  wallet operation failed: " ++ text
  | walletUpgrade text => "The wallet canister must be upgraded: " ++ text
  | tooManySignatures had needed =>
    "Query response contained too many signatures (" ++ toString had
      ++ ", exceeding the subnet's total nodes: " ++ toString needed ++ ")"
  | keyLength expected actual =>
    s!"BLS DER-encoded public key must be ${expected} bytes long, but is {actual} bytes long."
  | keyHeader expected actual =>
    "BLS DER-encoded public key is invalid. Expected the following prefix: $"
      ++ Text.byteList expected ++ ", but got $" ++ Text.byteList actual
  | callMismatch field argument encoded =>
    "There is a mismatch between the CBOR encoded call and the arguments: field " ++ field
      ++ ", value in argument is " ++ argument ++ ", value in CBOR is " ++ encoded
  | exchange failure => "The replica returned an HTTP Error: " ++ failure.message
  | principal fault => "Cannot parse Principal: " ++ fault.message
  | encoding fault => "Error in UTF-8 string: " ++ fault.message
  | rejectCode code => "Invalid reject code " ++ toString code
  | candid fault => "Candid returned an error: " ++ fault.message
  | cbor => "Invalid CBOR data, could not deserialize: the reply is not a query response"
  | other text => text

end CanisterGateway.Replica
