import CanisterGateway.Bytes.Radix
import CanisterGateway.Bytes.Utf8
import CanisterGateway.Text.Blank
import CanisterGateway.Text.Number
import CanisterGateway.Text.Split

/-!
# The certification header

A certified response carries one header with comma-separated fields: the certificate, the hash
tree and the expression path, each in base 64 between colons, and the version of the
certification. Of fields with one name the first counts; a field that is not of the form of a
name, an equals sign and a value is ignored, and so is one with any other name.
-/

namespace CanisterGateway.Certification

/-- What a certification header states. -/
structure Statement where
  certificate? : Option Bytes
  tree? : Option Bytes
  version? : Option UInt8
  path? : Option Bytes
  deriving DecidableEq

/-- Why a certification header cannot be read. -/
inductive StatementFault
  | base64
  | number
  deriving DecidableEq

namespace Statement

def empty : Statement := ⟨none, none, none, none⟩

/-- The name and the value of a field. The value may stand between colons, of which either may be
missing, and contains none; nothing may follow it. -/
def field? (text : List Char) : Option (String × List Char) :=
  let name := text.takeWhile (· ≠ '=')
  match text.dropWhile (· ≠ '=') with
  | [] => none
  | _ :: rest =>
    let rest := if rest.head? = some ':' then rest.drop 1 else rest
    let value := rest.takeWhile (· ≠ ':')
    let after := (rest.dropWhile (· ≠ ':')).drop 1
    if name.isEmpty || value.isEmpty || !after.isEmpty then none
    else some (String.ofList name, value)

/-- Reads an unsigned number of eight bits, with an optional plus sign. -/
def number? (text : List Char) : Option UInt8 :=
  let digits := if text.head? = some '+' then text.drop 1 else text
  (Text.decimalBelow? 256 digits).map UInt8.ofNat

def decode (value : List Char) : Except StatementFault Bytes :=
  (Bytes.Base64.decode? value).elim (.error .base64) .ok

/-- Takes in one field. -/
def add (statement : Statement) (field : String × List Char) :
    Except StatementFault Statement := do
  let (name, value) := field
  if name = "certificate" && statement.certificate?.isNone then
    return { statement with certificate? := some (← decode value) }
  else if name = "tree" && statement.tree?.isNone then
    return { statement with tree? := some (← decode value) }
  else if name = "expr_path" && statement.path?.isNone then
    return { statement with path? := some (← decode value) }
  else if name = "version" && statement.version?.isNone then
    match number? value with
    | some n => return { statement with version? := some n }
    | none => throw .number
  else return statement

/-- What the value of a certification header states. -/
def ofText (text : String) : Except StatementFault Statement :=
  ((Text.splitAt ',' text.toList).filterMap fun piece => field? (Text.trim piece)).foldlM add empty

end Statement
end CanisterGateway.Certification
