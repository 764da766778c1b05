import CanisterGateway.Text.Unprintable

/-!
# Quoted text

How messages show a text or a list of texts unambiguously: in double quotes, with a quote, a
backslash and the usual control characters written as two-character escapes and every other
unprintable character as its code point in hexadecimal between braces.
-/

namespace CanisterGateway.Text

/-- The hexadecimal digits of a code point, without leading zeros. -/
def codePoint (c : Char) : List Char :=
  Nat.toDigits 16 c.toNat

/-- A character as it stands between the quotes. -/
def escape (c : Char) : List Char :=
  if c = '"' then ['\\', '"']
  else if c = '\\' then ['\\', '\\']
  else if c = '\n' then ['\\', 'n']
  else if c = '\r' then ['\\', 'r']
  else if c = '\t' then ['\\', 't']
  else if c.toNat = 0 then ['\\', '0']
  else if isUnprintable c then ['\\', 'u', '\x7b'] ++ codePoint c ++ ['\x7d']
  else [c]

/-- A text in double quotes. -/
def quoted (text : String) : String :=
  String.ofList (['"'] ++ text.toList.flatMap escape ++ ['"'])

/-- Items between brackets, separated by commas. -/
def bracketed (items : List String) : String :=
  "[" ++ ", ".intercalate items ++ "]"

/-- A list of quoted texts. -/
def quotedList (texts : List String) : String :=
  bracketed (texts.map quoted)

/-- A text that may be missing. -/
def quotedOption : Option String → String
  | none => "None"
  | some text => "Some(" ++ quoted text ++ ")"

/-- A byte string as the list of its bytes in decimal. -/
def byteList (bytes : List UInt8) : String :=
  bracketed (bytes.map fun b => toString b.toNat)

end CanisterGateway.Text
