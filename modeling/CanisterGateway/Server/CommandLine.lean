import CanisterGateway.Gateway.Settings
import CanisterGateway.Address.Web
import CanisterGateway.Server.Parameter

/-!
# The command line

Arguments are looked at from left to right. An option gives its value after an equals sign or in
the next argument; what begins with a hyphen is never a value of its own. A value in the next
argument is taken in when the option after it begins, so an argument that nobody knows is
complained about first.

A parameter that no option gives is looked up in the environment. Only the canister has to be
given one way or the other.
-/

namespace CanisterGateway.Server

/-- Why the server does not start. -/
inductive Complaint
  | missing (parameter : Parameter)
  | unknown (argument : String)
  | repeated (parameter : Parameter)
  | invalid (parameter : Parameter) (value : String) (fault : ValueFault)
  | noValue (parameter : Parameter)
  /-- A value of a switch that is neither of the two that there are. -/
  | notSwitch (parameter : Parameter) (value : String)
  /-- A value for an option that takes none. -/
  | unwanted (option value : String)
  | help
  | version
  deriving DecidableEq

/-- How the server is started. -/
def usage : String :=
  "\n".intercalate ("Serves one canister and verifies what it serves." ::
    Parameter.all.map fun parameter =>
      "  " ++ parameter.usage ++ "  [" ++ parameter.environmentName ++ "]")

/-- The wording of a complaint. -/
def Complaint.message : Complaint → String
  | missing parameter => "required: " ++ parameter.usage
  | unknown argument => "unexpected argument: " ++ argument
  | repeated parameter => "given more than once: " ++ parameter.usage
  | invalid parameter value fault =>
    "invalid value " ++ Text.quoted value ++ " for " ++ parameter.usage ++ ": " ++ fault.message
  | noValue parameter => "no value for " ++ parameter.usage
  | notSwitch parameter value =>
    "invalid value " ++ Text.quoted value ++ " for " ++ parameter.usage ++ ": true or false"
  | unwanted option value => "unexpected value " ++ Text.quoted value ++ " for " ++ option
  | help => usage
  | version => "canister gateway 1"

/-- Whether the complaint only stands for something else that was asked for. -/
def Complaint.isAnswer : Complaint → Bool
  | help | version => true
  | _ => false

/-! ## What was given -/

/-- The values that were given so far. -/
structure Given where
  canister? : Option Principal
  apiUrl? : Option String
  listenAddress? : Option Address.Socket
  rootKey? : Option Bytes
  fetchRootKey? : Option Bool
  deriving DecidableEq

namespace Given

def nothing : Given := ⟨none, none, none, none, none⟩

def has (given : Given) : Parameter → Bool
  | .canister => given.canister?.isSome
  | .apiUrl => given.apiUrl?.isSome
  | .listenAddress => given.listenAddress?.isSome
  | .rootKey => given.rootKey?.isSome
  | .fetchRootKey => given.fetchRootKey?.isSome

/-- The value of a switch. -/
def readSwitch? : String → Option Bool
  | "true" => some true
  | "false" => some false
  | _ => none

/-- Takes in a value. -/
def put (given : Given) (parameter : Parameter) (value : String) : Except Complaint Given :=
  let invalid {α : Type} (read : Except ValueFault α) : Except Complaint α :=
    read.mapError (.invalid parameter value)
  match parameter with
  | .canister => do return { given with canister? := some (← invalid (readCanister value)) }
  | .apiUrl => .ok { given with apiUrl? := some value }
  | .listenAddress => do
    return { given with listenAddress? := some (← invalid (readAddress value)) }
  | .rootKey => do return { given with rootKey? := some (← invalid (readRootKey value)) }
  | .fetchRootKey =>
    match readSwitch? value with
    | some fetch => .ok { given with fetchRootKey? := some fetch }
    | none => .error (.notSwitch parameter value)

/-- Takes in a value from the command line, where a parameter has one at most. -/
def putOnce (given : Given) (parameter : Parameter) (value : String) : Except Complaint Given :=
  if given.has parameter then .error (.repeated parameter) else given.put parameter value

end Given

/-! ## Arguments -/

/-- What an argument looks like. -/
inductive Argument
  /-- Two hyphens, after which there are no options. -/
  | terminator
  | long (name : String) (value? : Option String)
  | short (name : Char)
  | plain (text : String)
  deriving DecidableEq

def Argument.ofText (text : String) : Argument :=
  match text.toList with
  | ['-', '-'] => .terminator
  | '-' :: '-' :: rest =>
    let name := String.ofList (rest.takeWhile (· ≠ '='))
    match rest.dropWhile (· ≠ '=') with
    | [] => .long name none
    | _ :: value => .long name (some (String.ofList value))
  | '-' :: name :: _ => .short name
  | _ => .plain text

/-- An option whose value is still to come, or is not yet taken in. -/
inductive Pending
  | nothing
  | awaiting (parameter : Parameter)
  | value (parameter : Parameter) (value : String)
  deriving DecidableEq

/-- Takes in what is pending. -/
def Given.settle (given : Given) : Pending → Except Complaint Given
  | .nothing => .ok given
  | .awaiting parameter => .error (.noValue parameter)
  | .value parameter value => given.putOnce parameter value

/-- A way to ask for something else than to serve. -/
def request? : Argument → Option Complaint
  | .long "help" _ => some .help
  | .long "version" _ => some .version
  | .short 'h' => some .help
  | .short 'V' => some .version
  | _ => none

/-- Takes in one option. -/
def Given.takeOption (given : Given) (pending : Pending) (parameter : Parameter)
    (value? : Option String) : Except Complaint (Given × Pending) :=
  match parameter.takesValue, value? with
  | true, some value => do
    return (← (← given.settle pending).putOnce parameter value, .nothing)
  | true, none => do return (← given.settle pending, .awaiting parameter)
  | false, some value => .error (.unwanted parameter.usage value)
  | false, none => do
    return (← (← given.settle pending).putOnce parameter "true", .nothing)

/-- Takes in one argument other than the terminator. -/
def Given.take (given : Given) (pending : Pending) (argument : Argument) :
    Except Complaint (Given × Pending) :=
  match request? argument, argument with
  | some _, .long name (some value) => .error (.unwanted ("--" ++ name) value)
  | some complaint, _ => do
    let _ ← given.settle pending
    .error complaint
  | none, .long name value? =>
    match Parameter.ofName? name with
    | some parameter => given.takeOption pending parameter value?
    | none => .error (.unknown ("--" ++ name))
  | none, .short name => .error (.unknown (String.ofList ['-', name]))
  | none, .plain text =>
    match pending with
    | .awaiting parameter => .ok (given, .value parameter text)
    | _ => .error (.unknown text)
  | none, .terminator => .ok (given, pending)

/-- What the arguments give. -/
def Given.ofArguments (given : Given) (pending : Pending) :
    List String → Except Complaint Given
  | [] => given.settle pending
  | text :: rest =>
    match Argument.ofText text, rest with
    | .terminator, [] => given.settle pending
    | .terminator, extra :: _ => .error (.unknown extra)
    | argument, rest => do
      let (given, pending) ← given.take pending argument
      given.ofArguments pending rest

/-- Looks up what was not given. -/
def Given.lookUp (given : Given) (environment : String → Option String) : Except Complaint Given :=
  Parameter.all.foldlM (fun given parameter =>
    match given.has parameter, environment parameter.environmentName with
    | false, some value => given.put parameter value
    | _, _ => .ok given) given

/-! ## The server's configuration -/

/-- What the server goes by. -/
structure Config where
  canister : Principal
  apiUrl : String
  listenAddress : Address.Socket
  rootKey? : Option Bytes
  fetchRootKey : Bool
  deriving DecidableEq

namespace Config

/-- The address that is listened on unless another is given. -/
def defaultAddress : Address.Socket := ⟨.v4 #v[127, 0, 0, 1], 3000⟩

/-- The configuration that arguments and environment give. -/
def ofArguments (arguments : List String) (environment : String → Option String) :
    Except Complaint Config := do
  let given ← Given.nothing.ofArguments .nothing arguments
  let given ← given.lookUp environment
  match given.canister? with
  | none => .error (.missing .canister)
  | some canister =>
    return {
      canister
      apiUrl := given.apiUrl?.getD Gateway.defaultBoundaryNode
      listenAddress := given.listenAddress?.getD defaultAddress
      rootKey? := given.rootKey?
      fetchRootKey := given.fetchRootKey?.getD false }

/-- The settings of the gateway, whose agent reaches the network over an address of the web. -/
def settings? {κ ν : Type} (config : Config) : Option (List (Gateway.Setting String κ ν)) :=
  if Address.isWebAddress config.apiUrl then
    some ([.agent config.apiUrl, .fetchRootKey config.fetchRootKey]
      ++ config.rootKey?.toList.map .rootKey)
  else none

end Config
end CanisterGateway.Server
