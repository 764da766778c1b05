import CanisterGateway.Gateway.Settings
import CanisterGateway.Http.Delivery

/-!
# Serving a canister

The server serves one canister over a gateway. A request arrives as a head and the frames of a
body. If the body can be read to its end, the gateway gets the request with the whole body, and
its response is the server's; verification is never skipped. If it cannot, nobody is asked
anything, and the client is told what is wrong.

## Main results

* `serveFrames_of_collect` — however a body is cut into frames, only the data in them counts.
-/

namespace CanisterGateway.Server

open Gateway (Call Installation Surroundings)

variable {α κ ν : Type}

/-- A response, unless the verifier ended without a verdict, with what was done for it and the
gateway after that. -/
structure Service (α κ ν : Type) where
  response? : Option Http.Response
  calls : List Call
  gateway : Installation α κ ν

/-- The response to a request whose body cannot be read. -/
def unreadableResponse (reason : String) : Http.Response :=
  .ofText .badRequest (Gateway.Error.requestBody reason).message

/-- Serves a request whose body arrives in frames. The time is that of a verification, should
there be one. -/
def serveFrames (gateway : Installation α κ ν) (surroundings : Surroundings α κ ν)
    (canister : Principal) (head : Http.Request) (frames : List Http.Frame) (now : Nat) :
    Service α κ ν :=
  match Http.Frame.collect frames with
  | .error reason => ⟨some (unreadableResponse reason), [], gateway⟩
  | .ok body =>
    let (exchange, gateway) := gateway.serve surroundings ⟨{ head with body }, canister, false, now⟩
    ⟨exchange.answer?.map (·.response), exchange.calls, gateway⟩

theorem serveFrames_of_collect {first second : List Http.Frame}
    (h : Http.Frame.collect first = Http.Frame.collect second) (gateway : Installation α κ ν)
    (surroundings : Surroundings α κ ν) (canister : Principal) (head : Http.Request) (now : Nat) :
    serveFrames gateway surroundings canister head first now =
      serveFrames gateway surroundings canister head second now := by
  unfold serveFrames
  rw [h]

/-- What goes out on a connection, if anything does, with what was done for it and the gateway
after that. -/
structure Transaction (α κ ν : Type) where
  delivery? : Option Http.Delivery
  calls : List Call
  gateway : Installation α κ ν

/-- Serves the request that arrived on a connection before the client ended its side. -/
def serveConnection (gateway : Installation α κ ν) (surroundings : Surroundings α κ ν)
    (canister : Principal) (received : Bytes) (now : Nat) : Transaction α κ ν :=
  match Http.Head.read received with
  | .error fault => ⟨fault.status?.map .ofFault, [], gateway⟩
  | .ok (head, rest) =>
    let service :=
      serveFrames gateway surroundings canister head.request (head.frames rest) now
    ⟨service.response?.map (.ofResponse head), service.calls, service.gateway⟩

end CanisterGateway.Server
