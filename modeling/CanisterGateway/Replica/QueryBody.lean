import CanisterGateway.Bytes.Reader
import CanisterGateway.Bytes.Utf8

/-!
# Bodies of query responses

A replica answers a query with an item of the concise binary object representation. Here the reading
is strict: every text is UTF-8, nothing follows the item, and items are nested at most so deep. Tags
are passed over. Lengths may be definite or not.

A body is a map whose `status` says whether the canister replied or the call was rejected. Entries
under other keys are ignored, but an entry that counts must not be there twice. Bytes may also be
written as text or as an array of small numbers.
-/

namespace CanisterGateway.Replica.QueryBody

open Bytes (Reader takeBytes exactly)

/-! ## Items -/

/-- An item. Of simple values and floating-point numbers only null is told apart. -/
inductive Item
  | unsigned (n : Nat)
  | negative (n : Nat)
  | bytes (content : Bytes)
  | text (content : String)
  | array (items : List Item)
  | map (entries : List (Item × Item))
  | null
  | simple

/-- The nesting that is still read. -/
def maxDepth : Nat := 128

/-- The byte that ends an item of indefinite length. -/
def breakByte : UInt8 := 0xFF

/-- The number that the low bits of a first byte announce. -/
def argument (info : Nat) : Reader Nat := fun bytes =>
  if info < 24 then some (info, bytes)
  else if info < 28 then
    (takeBytes (1 <<< (info - 24)) bytes).map fun (content, rest) => (Bytes.toNatBE content, rest)
  else none

/-- Reads things up to the byte that ends them. -/
def untilBreak {α : Type} (read : Reader α) : (limit : Nat) → Reader (List α)
  | 0, _ => none
  | _ + 1, [] => none
  | limit + 1, b :: bytes =>
    if b = breakByte then some ([], bytes)
    else do
      let (x, bytes) ← read (b :: bytes)
      let (xs, bytes) ← untilBreak read limit bytes
      some (x :: xs, bytes)

/-- Reads as many things as announced, or up to a break. -/
def sequence {α : Type} (read : Reader α) (info : Nat) : Reader (List α) := fun bytes =>
  if info = 31 then untilBreak read (bytes.length + 1) bytes
  else do
    let (count, bytes) ← argument info bytes
    exactly read count bytes

/-- Reads a piece of a string of the given major type. -/
def chunk (major : Nat) : Reader Bytes
  | [] => none
  | first :: bytes =>
    if first.toNat / 32 = major then do
      let (count, bytes) ← argument (first.toNat % 32) bytes
      takeBytes count bytes
    else none

/-- Reads the content of a string. -/
def content (major info : Nat) : Reader Bytes := fun bytes =>
  if info = 31 then
    (untilBreak (chunk major) (bytes.length + 1) bytes).map fun (parts, rest) =>
      (parts.flatten, rest)
  else do
    let (count, bytes) ← argument info bytes
    takeBytes count bytes

/-- Reads a simple value or a floating-point number. -/
def simple (info : Nat) : Reader Item := fun bytes =>
  if info = 20 || info = 21 then some (.simple, bytes)
  else if info = 22 || info = 23 then some (.null, bytes)
  else if 25 ≤ info && info ≤ 27 then
    (takeBytes (1 <<< (info - 24)) bytes).map fun (_, rest) => (.simple, rest)
  else none

/-- Reads two things. -/
def both {α : Type} (read : Reader α) : Reader (α × α) := fun bytes => do
  let (x, bytes) ← read bytes
  let (y, bytes) ← read bytes
  some ((x, y), bytes)

/-- Reads an item of at most the given depth. -/
def item : (depth : Nat) → Reader Item
  | 0, _ => none
  | _ + 1, [] => none
  | depth + 1, first :: bytes =>
    let info := first.toNat % 32
    match first.toNat / 32 with
    | 0 => (argument info bytes).map fun (n, rest) => (.unsigned n, rest)
    | 1 => (argument info bytes).map fun (n, rest) => (.negative n, rest)
    | 2 => (content 2 info bytes).map fun (c, rest) => (.bytes c, rest)
    | 3 => do
      let (c, rest) ← content 3 info bytes
      let characters ← Bytes.Utf8.decode? c
      some (.text characters, rest)
    | 4 =>
      if depth = 0 then none
      else (sequence (item depth) info bytes).map fun (xs, rest) => (.array xs, rest)
    | 5 =>
      if depth = 0 then none
      else (sequence (both (item depth)) info bytes).map fun (xs, rest) => (.map xs, rest)
    | 6 => do
      let (_, bytes) ← argument info bytes
      item depth bytes
    | _ => simple info bytes

/-! ## Query responses -/

/-- What a replica says to a query. -/
inductive Reply
  | replied (argument : Bytes)
  | rejected (code : Nat) (message : String) (errorCode? : Option String)
  deriving DecidableEq

/-- The values of the entries under a key. -/
def values (entries : List (Item × Item)) (key : String) : List Item :=
  entries.filterMap fun
    | (.text name, value) => if name = key then some value else none
    | _ => none

/-- The value of the only entry under a key. -/
def only? (entries : List (Item × Item)) (key : String) : Option Item :=
  match values entries key with
  | [value] => some value
  | _ => none

/-- The byte that a small number writes. -/
def byte? : Item → Option UInt8
  | .unsigned n => if n < 256 then some (UInt8.ofNat n) else none
  | _ => none

/-- The bytes that an item writes. -/
def bytes? : Item → Option Bytes
  | .bytes content => some content
  | .text content => some (Bytes.ofText content)
  | .array items => items.mapM byte?
  | _ => none

/-- The text that an item writes. -/
def text? : Item → Option String
  | .text content => some content
  | .bytes content => Bytes.Utf8.decode? content
  | _ => none

/-- A text that may be missing or null. -/
def optionalText? : List Item → Option (Option String)
  | [] => some none
  | [.null] => some none
  | [value] => (text? value).map some
  | _ => none

/-- The reply that a map writes. -/
def replyOfMap? (entries : List (Item × Item)) : Option Reply := do
  match ← only? entries "status" with
  | .text "replied" =>
    match ← only? entries "reply" with
    | .map reply => (bytes? (← only? reply "arg")).map .replied
    | _ => none
  | .text "rejected" =>
    match ← only? entries "reject_code" with
    | .unsigned code =>
      let message ← text? (← only? entries "reject_message")
      let errorCode? ← optionalText? (values entries "error_code")
      some (.rejected code message errorCode?)
    | _ => none
  | _ => none

/-- The reply that a body writes. -/
def Reply.ofBytes? (body : Bytes) : Option Reply :=
  match item maxDepth body with
  | some (.map entries, []) => replyOfMap? entries
  | _ => none

end CanisterGateway.Replica.QueryBody
