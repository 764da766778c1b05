import CanisterGateway.Bytes.Leb128
import CanisterGateway.Bytes.Reader
import CanisterGateway.Bytes.Utf8
import CanisterGateway.Candid.Value

/-!
# Candid messages

A message is a table of types, the types of its arguments, and the arguments themselves. A value
is read as its type directs; nothing in its bytes says what it is.

Types refer to each other through the table and may be recursive, so a reader is given a depth.
Every level takes at least one byte or goes on to another entry of the table through a record, and
a record that comes back to itself without a byte in between has no values. The product of the two
lengths is therefore enough.

The numbers of the type section have sixty-four bits. Numbers that are values have no bound.
-/

namespace CanisterGateway.Candid

open Bytes (Reader takeBytes exactly inOrder)

/-! ## Labels -/

/-- The number that stands for a field name. -/
def fieldId (name : String) : Nat :=
  (Bytes.ofText name).foldl (fun id b => (id * 223 + b.toNat) % UInt32.size) 0

/-! ## Types -/

/-- A type without parts. -/
inductive Primitive
  | null
  | bool
  | nat
  | int
  | fixed (kind : IntKind)
  | float32
  | float64
  | text
  | reserved
  | empty
  | principal
  deriving DecidableEq

/-- A primitive type, or an entry of the type table. -/
inductive TypeRef
  | primitive (p : Primitive)
  | entry (index : Nat)
  deriving DecidableEq

/-- How a function is called. -/
inductive FunctionMode
  | query
  | oneway
  | compositeQuery
  deriving DecidableEq

/-- The type of a function. -/
structure FunctionType where
  arguments : List TypeRef
  results : List TypeRef
  modes : List FunctionMode
  deriving DecidableEq

/-- An entry of the type table. -/
inductive TypeEntry
  | opt (content : TypeRef)
  | vec (element : TypeRef)
  | record (fields : List (Nat × TypeRef))
  | variant (fields : List (Nat × TypeRef))
  | func (type : FunctionType)
  | service (methods : List (Bytes × TypeRef))
  /-- A kind of type that is not known yet. -/
  | future
  deriving DecidableEq

abbrev TypeTable := List TypeEntry

/-! ## Reading types -/

/-- The number of bytes that a number of the type section may take. -/
def maxNumberWidth : Nat := 10

/-- Reads an unsigned number of sixty-four bits. -/
def number : Reader Nat := fun bytes => do
  let (n, rest) ← Bytes.Leb128.decode? bytes
  if n < UInt64.size ∧ bytes.length - rest.length ≤ maxNumberWidth then some (n, rest) else none

/-- Reads a signed number of sixty-four bits. -/
def signedNumber : Reader Int := fun bytes => do
  let (n, rest) ← Bytes.Leb128.decodeSigned? bytes
  if Int64.minValue.toInt ≤ n ∧ n ≤ Int64.maxValue.toInt
      ∧ bytes.length - rest.length ≤ maxNumberWidth then some (n, rest)
  else none

/-- The primitive type with a negative code. -/
def primitive? : Int → Option Primitive
  | -1 => some .null
  | -2 => some .bool
  | -3 => some .nat
  | -4 => some .int
  | -5 => some (.fixed .nat8)
  | -6 => some (.fixed .nat16)
  | -7 => some (.fixed .nat32)
  | -8 => some (.fixed .nat64)
  | -9 => some (.fixed .int8)
  | -10 => some (.fixed .int16)
  | -11 => some (.fixed .int32)
  | -12 => some (.fixed .int64)
  | -13 => some .float32
  | -14 => some .float64
  | -15 => some .text
  | -16 => some .reserved
  | -17 => some .empty
  | -24 => some .principal
  | _ => none

/-- Reads a reference to a type. -/
def typeRef : Reader TypeRef := fun bytes => do
  let (code, rest) ← signedNumber bytes
  if code ≥ 0 then some (.entry code.toNat, rest)
  else (primitive? code).map fun p => (.primitive p, rest)

/-- Reads as many things as a number in front of them says. -/
def counted {α : Type} (read : Reader α) : Reader (List α) := fun bytes => do
  let (count, bytes) ← number bytes
  exactly read count bytes

/-- Reads bytes with their number in front. -/
def countedBytes : Reader Bytes := fun bytes => do
  let (count, bytes) ← number bytes
  takeBytes count bytes

/-- Reads a text with the number of its bytes in front. -/
def text : Reader String := fun bytes => do
  let (content, rest) ← countedBytes bytes
  let characters ← Bytes.Utf8.decode? content
  some (characters, rest)

/-- Reads the fields of a record or variant; their identifiers have thirty-two bits. -/
def fields : Reader (List (Nat × TypeRef)) :=
  counted fun bytes => do
    let (id, bytes) ← number bytes
    let (type, bytes) ← typeRef bytes
    if id < UInt32.size then some ((id, type), bytes) else none

/-- Reads how a function is called: nothing or one mode. -/
def functionModes : Reader (List FunctionMode)
  | 0 :: rest => some ([], rest)
  | 1 :: 1 :: rest => some ([.query], rest)
  | 1 :: 2 :: rest => some ([.oneway], rest)
  | 1 :: 3 :: rest => some ([.compositeQuery], rest)
  | _ => none

def functionType : Reader FunctionType := fun bytes => do
  let (arguments, bytes) ← counted typeRef bytes
  let (results, bytes) ← counted typeRef bytes
  let (modes, bytes) ← functionModes bytes
  some (⟨arguments, results, modes⟩, bytes)

/-- Reads a method of a service. -/
def method : Reader (Bytes × TypeRef) := fun bytes => do
  let (name, bytes) ← text bytes
  let (type, bytes) ← typeRef bytes
  some ((Bytes.ofText name, type), bytes)

/-- Reads the bytes of a type of a kind that is not known. -/
def futureType : Reader TypeEntry := fun bytes => do
  let (code, bytes) ← signedNumber bytes
  if code ≥ -24 then none
  else
    let (_, bytes) ← countedBytes bytes
    some (.future, bytes)

/-- Reads an entry of the type table. -/
def typeEntry : Reader TypeEntry
  | [] => none
  | code :: bytes =>
    if code = 0x6E then (typeRef bytes).map fun (t, rest) => (.opt t, rest)
    else if code = 0x6D then (typeRef bytes).map fun (t, rest) => (.vec t, rest)
    else if code = 0x6C then (fields bytes).map fun (fs, rest) => (.record fs, rest)
    else if code = 0x6B then (fields bytes).map fun (fs, rest) => (.variant fs, rest)
    else if code = 0x6A then (functionType bytes).map fun (f, rest) => (.func f, rest)
    else if code = 0x69 then (counted method bytes).map fun (ms, rest) => (.service ms, rest)
    else futureType (code :: bytes)

/-! ## Sound tables -/

/-- Whether every element is below the next one. -/
def ascending {α : Type} (lt : α → α → Bool) : List α → Bool
  | a :: b :: rest => lt a b && ascending lt (b :: rest)
  | _ => true

namespace TypeTable

/-- Whether a reference leads to an entry. -/
def refers (table : TypeTable) : TypeRef → Bool
  | .primitive _ => true
  | .entry index => index < table.length

/-- Whether a reference leads to a function type. -/
def refersToFunction (table : TypeTable) : TypeRef → Bool
  | .primitive _ => false
  | .entry index =>
    match table[index]? with
    | some (.func _) => true
    | _ => false

/-- Whether the fields are sorted and their types are there. -/
def soundFields (table : TypeTable) (fields : List (Nat × TypeRef)) : Bool :=
  ascending (· < ·) (fields.map (·.1)) && fields.all (table.refers ·.2)

/-- Whether an entry is well-formed in its table. -/
def soundEntry (table : TypeTable) : TypeEntry → Bool
  | .opt t => table.refers t
  | .vec t => table.refers t
  | .record fields => table.soundFields fields
  | .variant fields => table.soundFields fields
  | .func f => (f.arguments ++ f.results).all table.refers
  | .service methods =>
    ascending Bytes.lt (methods.map (·.1)) && methods.all (table.refersToFunction ·.2)
  | .future => true

/-- Whether all entries are well-formed. -/
def sound (table : TypeTable) : Bool :=
  table.all table.soundEntry

/-- The entry that a reference leads to, if it is none of the primitive types. -/
def entry? (table : TypeTable) : TypeRef → Option TypeEntry
  | .primitive _ => none
  | .entry index => table[index]?

/-- The type of a record field. -/
def fieldType? (table : TypeTable) (type : TypeRef) (id : Nat) : Option TypeRef :=
  match table.entry? type with
  | some (.record fields) => fields.lookup id
  | _ => none

/-- The type of what a variant carries under a tag. -/
def variantType? (table : TypeTable) (type : TypeRef) (id : Nat) : Option TypeRef :=
  match table.entry? type with
  | some (.variant fields) => fields.lookup id
  | _ => none

/-- The type of the content of an optional value; any other type is its own content. -/
def contentType (table : TypeTable) (type : TypeRef) : TypeRef :=
  match table.entry? type with
  | some (.opt content) => content
  | _ => type

/-- Whether a record may lack a field of the type. -/
def mayBeMissing (table : TypeTable) : TypeRef → Bool
  | .primitive p => p = .null || p = .reserved
  | .entry index =>
    match table[index]? with
    | some (.opt _) => true
    | _ => false

end TypeTable

/-! ## Reading values -/

/-- The number of bytes of a number of fixed width. -/
def IntKind.width : IntKind → Nat
  | nat8 => 1
  | nat16 => 2
  | nat32 => 4
  | nat64 => 8
  | int8 => 1
  | int16 => 2
  | int32 => 4
  | int64 => 8

def IntKind.signed : IntKind → Bool
  | int8 => true
  | int16 => true
  | int32 => true
  | int64 => true
  | _ => false

/-- The number that bytes write in two's complement or without a sign. -/
def IntKind.ofBytes (kind : IntKind) (bytes : Bytes) : Int :=
  let n := Bytes.toNatLE bytes
  if kind.signed && n ≥ 1 <<< (8 * kind.width - 1) then
    (n : Int) - (1 <<< (8 * kind.width) : Nat)
  else n

/-- Reads a principal; a reference that shows no principal is not supported. -/
def principal : Reader Principal
  | 1 :: bytes => do
    let (content, rest) ← countedBytes bytes
    let id ← Principal.ofBytes? content
    some (id, rest)
  | _ => none

/-- Reads a reference to a method of a canister. -/
def function : Reader Value
  | 1 :: bytes => do
    let (id, bytes) ← principal bytes
    let (method, bytes) ← text bytes
    some (.func id method, bytes)
  | _ => none

/-- Reads what is known of a value of an unknown kind: its length, and that no references follow. -/
def futureValue : Reader Value := fun bytes => do
  let (length, bytes) ← number bytes
  let (references, bytes) ← number bytes
  let (_, bytes) ← takeBytes length bytes
  if references = 0 then some (.null, bytes) else none

def boolean : Reader Bool
  | 0 :: rest => some (false, rest)
  | 1 :: rest => some (true, rest)
  | _ => none

/-- Reads a value of a primitive type. -/
def primitiveValue : Primitive → Reader Value
  | .null => fun bytes => some (.null, bytes)
  | .reserved => fun bytes => some (.reserved, bytes)
  | .empty => fun _ => none
  | .bool => fun bytes => (boolean bytes).map fun (b, rest) => (.bool b, rest)
  | .nat => fun bytes => (Bytes.Leb128.decode? bytes).map fun (n, rest) => (.nat n, rest)
  | .int => fun bytes => (Bytes.Leb128.decodeSigned? bytes).map fun (n, rest) => (.int n, rest)
  | .fixed kind => fun bytes =>
    (takeBytes kind.width bytes).map fun (content, rest) =>
      (.fixed kind (kind.ofBytes content), rest)
  | .float32 => fun bytes =>
    (takeBytes 4 bytes).map fun (content, rest) => (.float32 (Bytes.toNatLE content), rest)
  | .float64 => fun bytes =>
    (takeBytes 8 bytes).map fun (content, rest) => (.float64 (Bytes.toNatLE content), rest)
  | .text => fun bytes => (text bytes).map fun (s, rest) => (.text s, rest)
  | .principal => fun bytes => (principal bytes).map fun (id, rest) => (.principal id, rest)

/-- Reads a value of a type, at most to the given depth. -/
def value (table : TypeTable) : (depth : Nat) → TypeRef → Reader Value
  | 0, _ => fun _ => none
  | _ + 1, .primitive p => primitiveValue p
  | depth + 1, .entry index => fun bytes =>
    match table[index]? with
    | none => none
    | some (.opt content) => do
      let (present, bytes) ← boolean bytes
      if present then
        (value table depth content bytes).map fun (v, rest) => (.opt v, rest)
      else some (.none, bytes)
    | some (.vec element) =>
      if element = .primitive (.fixed .nat8) then
        (countedBytes bytes).map fun (content, rest) => (.blob content, rest)
      else (counted (value table depth element) bytes).map fun (vs, rest) => (.vec vs, rest)
    | some (.record fields) =>
      (inOrder (fields.map fun (_, type) => value table depth type) bytes).map fun (vs, rest) =>
        (.record ((fields.map fun (id, _) => Label.id id).zip vs), rest)
    | some (.variant fields) => do
      let (tag, bytes) ← number bytes
      let (id, type) ← fields[tag]?
      (value table depth type bytes).map fun (v, rest) => (.variant (.id id) v, rest)
    | some (.func _) => function bytes
    | some (.service _) => (principal bytes).map fun (id, rest) => (.service id, rest)
    | some .future => futureValue bytes

/-! ## Reading messages -/

/-- The first bytes of a message. -/
def magic : Bytes := Bytes.ofText "DIDL"

/-- Reads the type table and the types of the arguments. -/
def typeSection : Reader (TypeTable × List TypeRef) := fun bytes => do
  let (front, bytes) ← takeBytes magic.length bytes
  if front ≠ magic then none
  let (table, bytes) ← counted typeEntry bytes
  let (arguments, bytes) ← counted typeRef bytes
  if TypeTable.sound table && arguments.all (TypeTable.refers table) then
    some ((table, arguments), bytes)
  else none

/-- A message with its first argument. -/
structure Message where
  table : TypeTable
  type : TypeRef
  argument : Value

/-- Reads a message to its end. Arguments after the first one are read and forgotten. -/
def Message.ofBytes (bytes : Bytes) : Except Fault Message :=
  match typeSection bytes with
  | none => .error .typeSection
  | some ((table, types), content) =>
    let depth := (content.length + 1) * (table.length + 2)
    match inOrder (types.map (value table depth)) content, types with
    | none, _ => .error .malformedValue
    | some (argument :: _, []), type :: _ => .ok ⟨table, type, argument⟩
    | some (_, _ :: _), _ => .error .trailingBytes
    | some _, _ => .error .noArgument

/-! ## Parts of values -/

/-- The value of a record field with a name. -/
def Value.field? (name : String) : Value → Option Value
  | .record fields => (fields.find? (·.1 = .id (fieldId name))).map (·.2)
  | _ => .none

/-- What is there where an optional value is expected. A value that is not optional counts as
there. -/
def Value.content? : Value → Option Value
  | .null => .none
  | .reserved => .none
  | .none => .none
  | .opt content => some content
  | other => some other

end CanisterGateway.Candid
