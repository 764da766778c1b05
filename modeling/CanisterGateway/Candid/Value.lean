import CanisterGateway.Principal

/-!
# Candid values

The values of the interface language that canisters speak. Numbers of fixed width are kept by their
value, floating-point numbers by their bits, and the fields of records and variants by their label:
a number, or a name where the source of the value had one.

A message of values may fail to be one, or may not hold a value of the type that is asked for.
-/

namespace CanisterGateway.Candid

/-- The label of a record field or variant tag. -/
inductive Label
  | id (n : Nat)
  | name (text : String)
  deriving DecidableEq

/-- A signed or unsigned number of eight to sixty-four bits. -/
inductive IntKind
  | nat8 | nat16 | nat32 | nat64
  | int8 | int16 | int32 | int64
  deriving DecidableEq

/-- A value. -/
inductive Value
  | null
  | none
  | reserved
  | bool (b : Bool)
  | text (s : String)
  | number (digits : String)
  | nat (n : Nat)
  | int (n : Int)
  | fixed (kind : IntKind) (n : Int)
  | float32 (bits : Nat)
  | float64 (bits : Nat)
  | blob (bytes : Bytes)
  | principal (id : Principal)
  | service (id : Principal)
  | func (id : Principal) (method : String)
  | opt (value : Value)
  | vec (items : List Value)
  | record (fields : List (Label × Value))
  | variant (tag : Label) (value : Value)

/-- Why a message does not yield the value that is asked for. -/
inductive Fault
  | typeSection
  | noArgument
  | typeMismatch
  | malformedValue
  | trailingBytes
  deriving DecidableEq

/-- The wording of a fault. -/
def Fault.message : Fault → String
  | typeSection => "the type section is malformed"
  | noArgument => "there is no argument"
  | typeMismatch => "the argument does not have the expected type"
  | malformedValue => "a value is malformed"
  | trailingBytes => "bytes follow the last value"

end CanisterGateway.Candid
