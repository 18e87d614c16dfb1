/-!
# Numerals

A numeral is written as an optional minus sign, the whole part without needless zeros, an optional
fraction, and an optional exponent. `Numeral.read?` takes the longest numeral off the front of a
text: a point or an exponent mark without digits behind it is not part of it.

`Numeral` keeps the parts as they are written; `Numeral.coefficient` and `Numeral.scale` are what is
left of them for arithmetic, and `Numeral.isInteger` tells the numerals that stand for exact
integers.
-/

set_option autoImplicit false

namespace SpiceKit

/-- A numeral as written: sign, the digits before and behind the point, and the exponent. The
absence of a fraction or exponent is told apart from an empty or zero one, for a numeral without
both is an integer (`Numeral.isInteger`). -/
structure Numeral where
  negative : Bool
  whole : List Char
  fraction : Option (List Char)
  exponent : Option Int
  deriving DecidableEq, Repr

namespace Numeral

/-- The most digits an integer may have, in a settings file as on a command line. Reals have no such
limit. -/
def digitLimit : Nat := 4300

def isDigit (c : Char) : Bool := '0' ≤ c && c ≤ '9'

def digitsValue (digits : List Char) : Nat :=
  digits.foldl (fun value c => value * 10 + (c.toNat - 48)) 0

def takeDigits? (cs : List Char) : Option (List Char × List Char) :=
  match cs.takeWhile isDigit with
  | [] => none
  | digits => some (digits, cs.dropWhile isDigit)

def takeWhole? : List Char → Option (List Char × List Char)
  | '0' :: cs => some (['0'], cs)
  | cs => takeDigits? cs

def takeFraction : List Char → Option (List Char) × List Char
  | '.' :: cs =>
    match takeDigits? cs with
    | some (digits, rest) => (some digits, rest)
    | none => (none, '.' :: cs)
  | cs => (none, cs)

def exponentValue? : List Char → Option (Int × List Char)
  | '-' :: cs => (takeDigits? cs).map fun (digits, rest) => (-(digitsValue digits : Int), rest)
  | '+' :: cs => (takeDigits? cs).map fun (digits, rest) => ((digitsValue digits : Int), rest)
  | cs => (takeDigits? cs).map fun (digits, rest) => ((digitsValue digits : Int), rest)

def takeExponent : List Char → Option Int × List Char
  | [] => (none, [])
  | c :: cs =>
    if c = 'e' ∨ c = 'E' then
      match exponentValue? cs with
      | some (exponent, rest) => (some exponent, rest)
      | none => (none, c :: cs)
    else (none, c :: cs)

/-- Takes the longest numeral off the front of a text. `read?_text` says which characters may follow
a written numeral without becoming part of it. -/
def read? (cs : List Char) : Option (Numeral × List Char) := do
  let (negative, unsigned) := match cs with
    | '-' :: rest => (true, rest)
    | _ => (false, cs)
  let (whole, rest) ← takeWhole? unsigned
  let (fraction, rest) := takeFraction rest
  let (exponent, rest) := takeExponent rest
  return ({ negative, whole, fraction, exponent }, rest)

def isInteger (numeral : Numeral) : Bool := numeral.fraction.isNone && numeral.exponent.isNone

/-- All digits of a numeral as one number, the point left out; with `Numeral.scale` it gives the
value `coefficient · 10 ^ scale`. -/
def coefficient (numeral : Numeral) : Nat :=
  digitsValue (numeral.whole ++ numeral.fraction.getD [])

def scale (numeral : Numeral) : Int :=
  numeral.exponent.getD 0 - (numeral.fraction.getD []).length

def integer (numeral : Numeral) : Int :=
  if numeral.negative then -(digitsValue numeral.whole : Int) else digitsValue numeral.whole

end Numeral
end SpiceKit
