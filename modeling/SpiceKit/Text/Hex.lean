/-!
# Hexadecimal digits

`hexDigits` writes a number with so many digits, in lower case; `hexValue?` reads one digit, in
either case. What writes JSON texts, addresses and quoted messages uses the first, the reader of
JSON texts the second.
-/

set_option autoImplicit false

namespace SpiceKit
namespace Text

/-- The last so many lower-case hexadecimal digits of a number, the first one first.
`fourDigits?_digits` reads four of them back. -/
def hexDigits : Nat → Nat → List Char
  | 0, _ => []
  | count + 1, n => hexDigits count (n / 16) ++ [Nat.digitChar (n % 16)]

def hexValue? (c : Char) : Option Nat :=
  if '0' ≤ c ∧ c ≤ '9' then some (c.toNat - 48)
  else if 'a' ≤ c ∧ c ≤ 'f' then some (c.toNat - 87)
  else if 'A' ≤ c ∧ c ≤ 'F' then some (c.toNat - 55)
  else none

end Text
end SpiceKit
