/-!
# Hexadecimal digits

The digits above nine are letters. They are written in lower or in upper case, and read in either.
-/

namespace Roster.Text

/-- The digit for a number below sixteen, in lower case. -/
def hexDigit (n : Nat) : Char :=
  Char.ofNat (if n < 10 then 0x30 + n else 0x57 + n)

/-- The digit for a number below sixteen, in upper case. -/
def upperHexDigit (n : Nat) : Char :=
  (hexDigit n).toUpper

/-- The value of a hexadecimal digit, in either case. -/
def hexValue? (c : Char) : Option Nat :=
  if '0' ≤ c && c ≤ '9' then some (c.toNat - 0x30)
  else if 'a' ≤ c && c ≤ 'f' then some (c.toNat - 0x57)
  else if 'A' ≤ c && c ≤ 'F' then some (c.toNat - 0x37)
  else none

/-- The digit for a number stands for the number, in either case. -/
theorem hexValue?_digits :
    ∀ n < 16, hexValue? (hexDigit n) = some n ∧ hexValue? (upperHexDigit n) = some n := by
  decide

end Roster.Text
