/-!
# Numbers in a radix

The number that a text of digits writes, in a radix of at most sixteen and with letters of either
case for the digits from ten up. There is at least one digit and nothing else.
-/

namespace CanisterGateway.Text

/-- The value of a digit in a radix. -/
def digit? (radix : Nat) (c : Char) : Option Nat :=
  let value? :=
    if '0' ≤ c ∧ c ≤ '9' then some (c.toNat - '0'.toNat)
    else if 'a' ≤ c ∧ c ≤ 'f' then some (c.toNat - 'a'.toNat + 10)
    else if 'A' ≤ c ∧ c ≤ 'F' then some (c.toNat - 'A'.toNat + 10)
    else none
  value?.filter (· < radix)

/-- The number that digits write from the most significant down. -/
def ofDigits (radix : Nat) (digits : List Nat) : Nat :=
  digits.foldl (fun n digit => n * radix + digit) 0

/-- The number that a text writes in a radix. -/
def number? (radix : Nat) (text : List Char) : Option Nat :=
  if text.isEmpty then none else (text.mapM (digit? radix)).map (ofDigits radix)

/-- The decimal number below a bound that a text writes. -/
def decimalBelow? (bound : Nat) (text : List Char) : Option Nat :=
  (number? 10 text).filter (· < bound)

end CanisterGateway.Text
