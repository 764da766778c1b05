import CanisterGateway.Bytes.Basic

/-!
# Percent escapes

A percent sign and two hexadecimal digits stand for a byte. Reading puts the bytes in place of the
escapes and keeps everything else in its UTF-8 form.
-/

namespace CanisterGateway.Text

/-- Puts the bytes of percent escapes in place; an incomplete escape stays as it is. -/
def unescape : List Char → Bytes
  | '%' :: high :: low :: rest =>
    match Bytes.hexDigit? high, Bytes.hexDigit? low with
    | some h, some l => (h * 16 + l) :: unescape rest
    | _, _ => String.utf8EncodeChar '%' ++ unescape (high :: low :: rest)
  | c :: rest => String.utf8EncodeChar c ++ unescape rest
  | [] => []

end CanisterGateway.Text
