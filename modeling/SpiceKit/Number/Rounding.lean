/-!
# Rounding a quotient

One function rounds every quotient of the library: to the nearest integer, and a half to the even
neighbour.

It is used twice: to find the number nearest to a fraction (`Binary64.nearestRank`) and to choose
between two neighbours on a grid of decimal numbers (`Binary64.onGrid?`). The round trip of numbers
rests on two facts about it: an exact quotient is given back, and any other goes to one of its
neighbours (`roundDiv_eq_or`).
-/

set_option autoImplicit false

namespace SpiceKit
namespace Number

/-- The integer nearest to a quotient; of two equally near ones, the even one. It is one of the two
neighbours of the quotient (`roundDiv_eq_or`), so what holds of both holds of it. -/
def roundDiv (n d : Nat) : Nat :=
  if 2 * (n % d) < d then n / d
  else if d < 2 * (n % d) then n / d + 1
  else if n / d % 2 = 0 then n / d else n / d + 1

/-- An exact quotient is not rounded. `nearestRank_units` needs this: a magnitude of the format is
its own nearest one. -/
theorem roundDiv_mul_right (q : Nat) {d : Nat} (h : 0 < d) : roundDiv (q * d) d = q := by
  simp [roundDiv, Nat.mul_mod_left, Nat.mul_div_cancel _ h, h]

end Number
end SpiceKit
