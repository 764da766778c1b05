import CanisterGateway.Address.Internet

/-!
# Socket addresses

The address that a server listens on: a host and a port. A host of version four is written as it
is, one of version six in brackets, with its zone after a percent sign unless it is zero. Ports
and zones may have leading zeros when they are read.
-/

namespace CanisterGateway.Address

/-- A host with an address of either version. -/
inductive Host
  | v4 (address : V4)
  | v6 (address : V6) (zone : UInt32)
  deriving DecidableEq

/-- A host and a port. -/
structure Socket where
  host : Host
  port : UInt16
  deriving DecidableEq

/-- The host that the text between brackets writes. -/
def Host.ofBracketed? (text : List Char) : Option Host := do
  let address ← V6.ofText? (text.takeWhile (· ≠ '%'))
  match text.dropWhile (· ≠ '%') with
  | [] => some (.v6 address 0)
  | _ :: zone => do
    let zone ← Text.decimalBelow? UInt32.size zone
    some (.v6 address (UInt32.ofNat zone))

def Host.text : Host → String
  | v4 address => address.text
  | v6 address zone =>
    let zoneText := if zone = 0 then "" else "%" ++ toString zone.toNat
    "[" ++ address.text ++ zoneText ++ "]"

namespace Socket

/-- The port that a colon and a number write. -/
def port? : List Char → Option UInt16
  | ':' :: digits => (Text.decimalBelow? UInt16.size digits).map UInt16.ofNat
  | _ => none

/-- The socket address that a text writes. -/
def ofChars? : List Char → Option Socket
  | '[' :: text => do
    let host ← Host.ofBracketed? (text.takeWhile (· ≠ ']'))
    let port ← port? ((text.dropWhile (· ≠ ']')).drop 1)
    some ⟨host, port⟩
  | text => do
    let address ← V4.ofText? (text.takeWhile (· ≠ ':'))
    let port ← port? (text.dropWhile (· ≠ ':'))
    some ⟨.v4 address, port⟩

def ofText? (text : String) : Option Socket :=
  ofChars? text.toList

def text (socket : Socket) : String :=
  socket.host.text ++ ":" ++ toString socket.port.toNat

end Socket
end CanisterGateway.Address
