/-!
# Blank characters

The Unicode property `White_Space`, and the text that remains when blanks are cut off both ends.
-/

namespace CanisterGateway.Text

/-- Whether the character has the property `White_Space`. -/
def isBlank (c : Char) : Bool :=
  let n := c.toNat
  (0x09 ≤ n && n ≤ 0x0D) || n == 0x20 || n == 0x85 || n == 0xA0 || n == 0x1680
    || (0x2000 ≤ n && n ≤ 0x200A) || n == 0x2028 || n == 0x2029 || n == 0x202F || n == 0x205F
    || n == 0x3000

/-- Drops what is of a class from both ends. -/
def trimBy {α : Type} (drop : α → Bool) (items : List α) : List α :=
  ((items.dropWhile drop).reverse.dropWhile drop).reverse

/-- Drops blanks from both ends. -/
def trim (text : List Char) : List Char :=
  trimBy isBlank text

end CanisterGateway.Text
