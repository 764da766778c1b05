import CanisterGateway.Address.Socket
import CanisterGateway.Principal
import CanisterGateway.Text.Blank

/-!
# The server's parameters

The server is told which canister to serve, over which address to reach it, where to listen, which
root key to trust, and whether to fetch that key. Each parameter has a name on the command line
and a variable in the environment, and all but the last take a value.

A root key is written in hexadecimal, with blanks around it or not, and is never empty.

## Main results

* `readRootKey_ne_nil` — no text writes the empty key.
-/

namespace CanisterGateway.Server

/-- What the server can be told. -/
inductive Parameter
  | canister
  | apiUrl
  | listenAddress
  | rootKey
  | fetchRootKey
  deriving DecidableEq

namespace Parameter

/-- All parameters, in the order in which the environment is looked at. -/
def all : List Parameter := [canister, apiUrl, listenAddress, rootKey, fetchRootKey]

/-- The name on the command line. -/
def name : Parameter → String
  | canister => "canister-id"
  | apiUrl => "api-url"
  | listenAddress => "listen-addr"
  | rootKey => "root-key"
  | fetchRootKey => "fetch-root-key"

/-- The parameter with a name. -/
def ofName? (name : String) : Option Parameter :=
  all.find? (·.name = name)

def takesValue : Parameter → Bool
  | fetchRootKey => false
  | _ => true

/-- The name in capitals, with underscores between the words. -/
def capitals (parameter : Parameter) : String :=
  parameter.name.map fun c => if c = '-' then '_' else c.toUpper

/-- The variable in the environment. -/
def environmentName (parameter : Parameter) : String :=
  "IC_GATEWAY_" ++ parameter.capitals

/-- How the parameter is written on the command line. -/
def usage (parameter : Parameter) : String :=
  if parameter.takesValue then "--" ++ parameter.name ++ " <" ++ parameter.capitals ++ ">"
  else "--" ++ parameter.name

end Parameter

/-! ## Values -/

/-- Why a value is none of its parameter. -/
inductive ValueFault
  | canister (value : String)
  | keyDigits
  | keyEmpty
  | address
  deriving DecidableEq

/-- The wording of a fault. -/
def ValueFault.message : ValueFault → String
  | canister value => "invalid canister id " ++ value
  | keyDigits => "root key is not valid hex"
  | keyEmpty => "root key is empty"
  | address => "invalid socket address syntax"

def readCanister (value : String) : Except ValueFault Principal :=
  (Principal.ofText value).mapError fun _ => .canister value

def readAddress (value : String) : Except ValueFault Address.Socket :=
  (Address.Socket.ofText? value).elim (.error .address) .ok

/-- The root key that a value writes. -/
def readRootKey (value : String) : Except ValueFault Bytes :=
  match Bytes.ofHex? (Text.trim value.toList) with
  | none => .error .keyDigits
  | some [] => .error .keyEmpty
  | some (first :: rest) => .ok (first :: rest)

theorem readRootKey_ne_nil (value : String) : readRootKey value ≠ .ok [] := by
  unfold readRootKey
  split <;> simp

end CanisterGateway.Server
