import CanisterGateway.Bytes.Reader
import CanisterGateway.Http.Message
import CanisterGateway.Text.Blank
import CanisterGateway.Text.Split

/-!
# Lines of a message

The head of a message, and the trailers after its body, are lines up to an empty one. A line of a
head ends with a line feed, with or without a carriage return in front of it. A field is a name, a
colon and a value with blanks around it.
-/

namespace CanisterGateway.Http

open Bytes (Reader)

def carriageReturn : UInt8 := 0x0D

def lineFeed : UInt8 := 0x0A

/-! ## Lines -/

/-- Reads a line that ends with a line feed, and drops one carriage return in front of it. -/
def looseLine? : Reader Bytes := fun bytes =>
  let line := bytes.takeWhile (· ≠ lineFeed)
  match bytes.dropWhile (· ≠ lineFeed) with
  | [] => none
  | _ :: rest => some (if line.getLast? = some carriageReturn then line.dropLast else line, rest)

/-- Reads a line that ends with the first carriage return, which has to be followed by a line
feed. -/
def strictLine? : Reader Bytes := fun bytes =>
  match bytes.dropWhile (· ≠ carriageReturn) with
  | _ :: next :: rest =>
    if next = lineFeed then some (bytes.takeWhile (· ≠ carriageReturn), rest) else none
  | _ => none

/-- Reads lines up to an empty one. -/
def linesUpToEmpty (line? : Reader Bytes) : (fuel : Nat) → Reader (List Bytes)
  | 0, _ => none
  | fuel + 1, bytes => do
    let (line, bytes) ← line? bytes
    if line.isEmpty then some ([], bytes)
    else
      let (lines, bytes) ← linesUpToEmpty line? fuel bytes
      some (line :: lines, bytes)

/-- Reads a block of lines and the empty line after it. Every line takes up at least a byte. -/
def block? (line? : Reader Bytes) : Reader (List Bytes) := fun bytes =>
  linesUpToEmpty line? bytes.length bytes

/-! ## Fields -/

/-- The text with one character for each byte. -/
def plainText (bytes : Bytes) : String :=
  String.ofList (bytes.map fun b => Char.ofNat b.toNat)

def isBlankByte (b : UInt8) : Bool := b = 0x20 || b = 0x09

def isColon (b : UInt8) : Bool := b = 0x3A

/-- The field that a line writes. -/
def fieldOfLine? (line : Bytes) : Option RawField :=
  match line.dropWhile (!isColon ·) with
  | [] => none
  | _ :: value => some (plainText (line.takeWhile (!isColon ·)), Text.trimBy isBlankByte value)

/-! ## Lists in values -/

/-- The pieces of a value between its commas, without blanks around them; none if the value is not
plain text. -/
def listedItems (value : Bytes) : List String :=
  if value.all fun b => b < 0x7F then
    (Text.splitAt ',' (plainText value).toList).map fun item => String.ofList (Text.trim item)
  else []

/-- Whether a value lists an item, in whatever case. -/
def listsItem (value : Bytes) (item : String) : Bool :=
  (listedItems value).any (sameName · item)

end CanisterGateway.Http
