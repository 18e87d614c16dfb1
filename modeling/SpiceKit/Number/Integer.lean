import SpiceKit.Number.Numeral
import SpiceKit.Text.Blank
import SpiceKit.Text.DecimalDigit

/-!
# Integers as people type them

White space around the number, an optional sign, and decimal digits of any script, between which
single underscores may stand. More than `Numeral.digitLimit` digits
are refused.

`natural?` reads the digits and `integer?` the whole of what was typed. This is how a line or a
column on a command line is read; a setting that is a number is read by `Numeral.read?`, which knows
ASCII digits alone.
-/

set_option autoImplicit false

namespace SpiceKit
namespace Number

def isPadding (c : Char) : Bool :=
  Text.isBlank c && !(0x1C ≤ c.toNat && c.toNat ≤ 0x1F)

def readDigits : List Char → Option (List Nat)
  | [] => none
  | [c] => (Text.decimalDigit? c).map ([·])
  | c :: '_' :: cs => do return (← Text.decimalDigit? c) :: (← readDigits cs)
  | c :: cs => do return (← Text.decimalDigit? c) :: (← readDigits cs)

def natural? (cs : List Char) : Option Nat :=
  (readDigits cs).bind fun digits =>
    if digits.length ≤ Numeral.digitLimit then
      some (digits.foldl (fun n digit => n * 10 + digit) 0)
    else none

def integer? (text : List Char) : Option Int :=
  let inner := (text.dropWhile isPadding).reverse.dropWhile isPadding |>.reverse
  match inner with
  | '-' :: digits => (natural? digits).map fun n => -(n : Int)
  | '+' :: digits => (natural? digits).map fun n => (n : Int)
  | digits => (natural? digits).map fun n => (n : Int)

end Number
end SpiceKit
