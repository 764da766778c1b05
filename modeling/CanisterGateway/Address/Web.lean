import CanisterGateway.Address.Internet
import CanisterGateway.Bytes.Utf8
import CanisterGateway.Http.Field
import CanisterGateway.Text.Blank
import CanisterGateway.Text.Escaped
import CanisterGateway.Text.Unprintable

/-!
# Web addresses

Which texts are absolute addresses by the living standard of the web. An address begins with a
scheme. The schemes of the web need a host, which may follow any number of slashes of either kind;
a file may have one after two slashes; any other scheme has one only after two forward slashes,
and it may be empty there. What follows the host and the port is never refused.

Blanks and controls around an address are ignored, and so are tabs and line ends inside it.

A host of a scheme of the web is an address of version six in brackets, or a name. Escapes in
names are undone first. A name that ends in a number has to be an address of version four, written
with up to four numbers in decimal, octal or hexadecimal, of which the last fills all bytes that
are left.
-/

namespace CanisterGateway.Address

/-! ## Schemes -/

/-- The kinds of schemes that are read in different ways. -/
inductive SchemeKind
  | web
  | file
  | other
  deriving DecidableEq

def SchemeKind.ofText (text : String) : SchemeKind :=
  if text = "file" then .file
  else if ["http", "https", "ws", "wss", "ftp"].contains text then .web
  else .other

def isSchemeChar (c : Char) : Bool :=
  c.isAlphanum || c = '+' || c = '-' || c = '.'

/-- The scheme in lower case, and the text after its colon. -/
def scheme? (text : List Char) : Option (String × List Char) :=
  match text with
  | [] => none
  | first :: _ =>
    match text.dropWhile isSchemeChar with
    | ':' :: rest =>
      if first.isAlpha then some (String.ofList (Http.lower (text.takeWhile isSchemeChar)), rest)
      else none
    | _ => none

/-! ## Hosts -/

/-- A number in decimal, in octal after a zero, or in hexadecimal after a zero and an x. -/
def looseNumber? : List Char → Option Nat
  | '0' :: 'x' :: digits => if digits.isEmpty then some 0 else Text.number? 16 digits
  | '0' :: 'X' :: digits => if digits.isEmpty then some 0 else Text.number? 16 digits
  | '0' :: digit :: digits => Text.number? 8 (digit :: digits)
  | text => Text.number? 10 text

/-- The parts of a name between its dots, without the empty one after a dot at the end. -/
def nameParts (name : List Char) : List (List Char) :=
  let parts := Text.splitAt '.' name
  if 1 < parts.length && parts.getLast? = some [] then parts.dropLast else parts

/-- Whether a name ends in a number, so that it has to be an address. -/
def endsInNumber (name : List Char) : Bool :=
  match (nameParts name).getLast? with
  | none => false
  | some last => (!last.isEmpty && last.all Char.isDigit) || (looseNumber? last).isSome

/-- Whether a name is an address of version four in its loose form. -/
def isLooseV4 (name : List Char) : Bool :=
  match (nameParts name).mapM looseNumber? with
  | none => false
  | some numbers =>
    numbers.length ≤ 4 && numbers.dropLast.all (· < 256)
      && numbers.getLast?.any (· < 1 <<< (8 * (5 - numbers.length)))

/-- Whether the text in brackets at the front of a host is an address of version six and all of the
host. -/
def isBracketed (text : List Char) : Bool :=
  text.getLast? = some ']' && (V6.ofText? text.dropLast).isSome

/-- Whether a name of a host of the web may contain the character. -/
def isNameChar (c : Char) : Bool :=
  if c.toNat < 0x80 then
    0x20 < c.toNat && c.toNat ≠ 0x7F && !"%#/:<>?@[\\]^|".toList.contains c
  else !Text.isUnprintable c

/-- Whether a text is a host of a scheme of the web or of a file. -/
def isWebHost : List Char → Bool
  | '[' :: text => isBracketed text
  | text =>
    match Bytes.Utf8.decode? (Text.unescape text) with
    | none => false
    | some name =>
      let name := name.toList
      !name.isEmpty && name.all isNameChar && (!endsInNumber name || isLooseV4 name)

/-- Whether the host of another scheme may contain the character. -/
def isOpaqueChar (c : Char) : Bool :=
  c.toNat ≠ 0 && !" #/:<>?@[\\]^|".toList.contains c

/-- Whether a text is a host of any other scheme. -/
def isOpaqueHost : List Char → Bool
  | '[' :: text => isBracketed text
  | text => text.all isOpaqueChar

/-! ## Authorities -/

def isSlash (c : Char) : Bool := c = '/' || c = '\\'

/-- Whether the character ends an authority. Backward slashes count as slashes on the web. -/
def endsAuthority (web : Bool) (c : Char) : Bool :=
  c = '/' || c = '?' || c = '#' || (web && c = '\\')

/-- The host at the front of a text: all up to the first colon that is not in brackets. -/
def frontHost : (inBrackets : Bool) → List Char → List Char
  | _, [] => []
  | inBrackets, c :: rest =>
    if c = ':' && !inBrackets then []
    else c :: frontHost (c = '[' || (inBrackets && c ≠ ']')) rest

/-- Whether the text after a host is a port, or nothing. -/
def isPort : List Char → Bool
  | [] => true
  | _ :: text =>
    let digits := text.takeWhile (· ≠ '\\')
    digits.isEmpty || (Text.decimalBelow? UInt16.size digits).isSome

/-- Whether text after the slashes begins with an authority. Whoever is named in front of an at sign
needs a host. -/
def isAuthority (web : Bool) (text : List Char) : Bool :=
  let authority := text.takeWhile (!endsAuthority web ·)
  let place := (authority.reverse.takeWhile (· ≠ '@')).reverse
  let user := authority.take (authority.length - place.length)
  let host := frontHost false place
  let port := place.drop host.length
  if host.isEmpty then
    !web && port.isEmpty
      && (user.isEmpty || user = [':', '@'] || (user = ['@'] && text.length = authority.length))
  else (if web then isWebHost host else isOpaqueHost host) && isPort port

/-- Whether the text is a drive with a letter. -/
def isDrive : List Char → Bool
  | [letter, mark] => letter.isAlpha && (mark = ':' || mark = '|')
  | _ => false

/-- Whether text after the two slashes of a file begins with a host, or with none. -/
def isFileHost (text : List Char) : Bool :=
  let host := text.takeWhile (!endsAuthority true ·)
  host.isEmpty || isDrive host || isWebHost host

/-! ## Addresses -/

/-- An address without what is ignored in it. -/
def cleaned (text : List Char) : List Char :=
  (Text.trimBy (·.toNat ≤ 0x20) text).filter fun c => c ≠ '\t' && c ≠ '\n' && c ≠ '\r'

/-- Whether the text is an absolute address. -/
def isWebAddress (text : String) : Bool :=
  match scheme? (cleaned text.toList) with
  | none => false
  | some (scheme, rest) =>
    match SchemeKind.ofText scheme with
    | .web => isAuthority true (rest.dropWhile isSlash)
    | .file =>
      match rest with
      | first :: second :: rest => !(isSlash first && isSlash second) || isFileHost rest
      | _ => true
    | .other =>
      match rest with
      | '/' :: '/' :: rest => isAuthority false rest
      | _ => true

end CanisterGateway.Address
