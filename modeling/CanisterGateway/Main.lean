import CanisterGateway.Server.CommandLine
import CanisterGateway.Server.Service

/-!
# The command

Reads its configuration from the command line and the environment, takes one request from standard
input and answers it on standard output, the way a server does that is started anew for every
connection. There is no transport to a replica here, so every call ends with that news.
No response is ever verified then, so the time of the verification is never looked at and stands at
zero.
-/

namespace CanisterGateway.Server

open Gateway (Settings Surroundings)

/-- A network that no replica is reached over. -/
def disconnected : Replica.Network :=
  ⟨fun _ _ _ => .failure .missingTransport, fun _ _ _ => .failure .missingTransport,
    .error .missingTransport⟩

/-- What the gateway of the command meets outside. -/
def commandSurroundings : Surroundings String Empty Empty :=
  ⟨Empty.elim, fun _ => disconnected, Empty.elim⟩

/-- Everything up to the end of the input. -/
partial def readAll (input : IO.FS.Stream) (before : ByteArray) : IO ByteArray := do
  let more ← input.read 65536
  if more.isEmpty then return before else readAll input (before ++ more)

/-- The parameters that the environment has values for. -/
def environmentValues : IO (List (String × String)) :=
  Parameter.all.filterMapM fun parameter => do
    return (← IO.getEnv parameter.environmentName).map (parameter.environmentName, ·)

/-- Answers one request. -/
def answer (config : Config) : IO UInt32 := do
  match (config.settings? : Option (List (Gateway.Setting String Empty Empty))) with
  | none =>
    IO.eprintln ("not a web address: " ++ config.apiUrl)
    return 1
  | some settings =>
    let received ← readAll (← IO.getStdin) ByteArray.empty
    let gateway := .build (Settings.ofList settings) fun _ => .mainnet
    let served := serveConnection gateway commandSurroundings config.canister received.toList 0
    if let some delivery := served.delivery? then
      let output ← IO.getStdout
      output.write ⟨delivery.bytes.toArray⟩
      output.flush
    return 0

end CanisterGateway.Server

open CanisterGateway.Server in
def main (arguments : List String) : IO UInt32 := do
  let environment ← environmentValues
  match Config.ofArguments arguments (List.lookup · environment) with
  | .ok config => answer config
  | .error complaint =>
    if complaint.isAnswer then
      IO.println complaint.message
      return 0
    else
      IO.eprintln complaint.message
      return 2
