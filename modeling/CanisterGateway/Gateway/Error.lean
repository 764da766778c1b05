import CanisterGateway.Certification.Verify
import CanisterGateway.Replica.CallError

/-!
# Failures of the gateway

A request through the gateway fails for one of six reasons. They fall into four classes, which tell
an unreachable canister from one whose content cannot be verified, from a bad request, and from a
failure of the gateway itself.
-/

namespace CanisterGateway.Gateway

/-- Why a request has no servable response. -/
inductive Error
  /-- A call to the canister failed, or was rejected. -/
  | call (error : Replica.CallError)
  /-- The outbound response could not be built. -/
  | http (fault : Http.Fault)
  /-- The canister's status code is none. -/
  | status
  /-- The body of the inbound request could not be read. -/
  | requestBody (text : String)
  /-- The response is not certified. -/
  | verification (fault : Certification.Fault)
  /-- There is no root key, and no way to get one. -/
  | rootKeyUnavailable
  deriving DecidableEq

/-- The class of a failure. -/
inductive ErrorKind
  | transport
  | verification
  | mapping
  | internal
  deriving DecidableEq

namespace Error

def kind : Error → ErrorKind
  | call _ => .transport
  | status => .transport
  | verification _ => .verification
  | requestBody _ => .mapping
  | http _ => .internal
  | rootKeyUnavailable => .internal

/-- The wording of an error. -/
def message : Error → String
  | call error => "Agent error: \"" ++ error.message ++ "\""
  | http fault => "HTTP error: \"" ++ fault.message ++ "\""
  | status => "Invalid status code: \"" ++ Http.Status.faultMessage ++ "\""
  | requestBody text => "Failed to read the request body: \"" ++ text ++ "\""
  | verification fault => "Response verification error: \"" ++ fault.message ++ "\""
  | rootKeyUnavailable => "The root key is not available"

end Error
end CanisterGateway.Gateway
