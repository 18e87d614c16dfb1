import SpiceKit.Number.Numeral
import SpiceKit.Number.Rounding

/-!
# Double-precision numbers

The finite magnitudes of the format, in increasing order, are numbered from zero: that number is a
magnitude's *rank*. Neighbours have neighbouring ranks across the step from one binary exponent to
the next and from subnormal to normal, so rounding needs no case for either, and every number has
exactly one representation.

Every finite magnitude is a multiple of the least one, which is two to the power of -1074; `units`
says which. All arithmetic is exact arithmetic on natural numbers.
-/

set_option autoImplicit false

namespace SpiceKit

/-- A double-precision number: `nan`, of which there is one, or a sign and a magnitude. The two
zeros are different numbers here, as their written forms are. -/
inductive Binary64 where
  | nan
  | infinite (negative : Bool)
  | finite (negative : Bool) (rank : Fin (2047 * Nat.pow 2 52))
  deriving DecidableEq, Repr

namespace Binary64

/-- The magnitude of a rank as a multiple of the least positive magnitude. It is positive for every
rank but zero (`units_pos`), and `nearestRank_units` says that rounding such a multiple gives the
rank again. -/
def units (rank : Nat) : Nat :=
  -- The numbers below the least normal one are spaced like those right above it.
  if rank < Nat.pow 2 52 then rank
  else (Nat.pow 2 52 + rank % Nat.pow 2 52) * Nat.pow 2 (rank / Nat.pow 2 52 - 1)

/-- The rank of the magnitude nearest to `n / d`; of two equally near ones, the even one. The
exponent is chosen so that the quotient keeps 53 bits, or all of them when there are fewer. It
depends on the quotient only, not on how it is written (`nearestRank_congr`). -/
def nearestRank (n d : Nat) : Nat :=
  -- Where there are fewer than 53 bits the subtraction stops at zero: nothing is shifted.
  let shift := (n * Nat.pow 2 1074 / d).log2 - 52
  shift * Nat.pow 2 52 + Number.roundDiv (n * Nat.pow 2 1074) (d * Nat.pow 2 shift)

/-- The number of a sign and a rank. A rank beyond the greatest magnitude means infinity, which is
where `nearestRank` comes to for every quotient that is too great. -/
def ofRank (negative : Bool) (rank : Nat) : Binary64 :=
  if h : rank < 2047 * Nat.pow 2 52 then .finite negative ⟨rank, h⟩ else .infinite negative

def ofRatio (negative : Bool) (n d : Nat) : Binary64 := ofRank negative (nearestRank n d)

def digitCount (n : Nat) : Nat := (Nat.toDigits 10 n).length

/-- The rank of the magnitude nearest to `coefficient · 10 ^ exponent`, for an exponent of moderate
size. Zeros moved between the two change nothing (`decimalRank_zeros`), and this is why layout is
free to add them. -/
def decimalRank (coefficient : Nat) (exponent : Int) : Nat :=
  nearestRank (coefficient * Nat.pow 10 exponent.toNat) (Nat.pow 10 (-exponent).toNat)

/-- The number nearest to `coefficient · 10 ^ exponent` with a sign. What is far beyond the greatest
or far below the least magnitude is decided by its order alone; elsewhere it is `decimalRank`
(`ofDecimal_of_decimalRank`). -/
def ofDecimal (negative : Bool) (coefficient : Nat) (exponent : Int) : Binary64 :=
  let order : Int := digitCount coefficient + exponent
  -- Far beyond both ends, so that no power of an absurd exponent is ever computed.
  if coefficient = 0 ∨ order < -400 then ofRank negative 0
  else if 400 < order then .infinite negative
  else ofRank negative (decimalRank coefficient exponent)

def ofNumeral (numeral : Numeral) : Binary64 :=
  ofDecimal numeral.negative numeral.coefficient numeral.scale

/-- The number nearest to an integer; none when that is beyond the greatest magnitude. A numeral of
that size would be read as infinity, but an integer is refused (`Settings.assignLimit`). -/
def ofInt? (n : Int) : Option Binary64 :=
  match ofRatio (n < 0) n.natAbs 1 with
  | .finite negative rank => some (.finite negative rank)
  | _ => none

/-! ## The fewest digits -/

/-- A positive decimal number: its digits without final zeros, and the power of ten above its first
digit, so that it is `0.digits · 10 ^ point`. `Shortest.layout` writes it with or without an
exponent. -/
structure Shortest where
  digits : List Char
  point : Int
  deriving DecidableEq, Repr

def pointOf (n d : Nat) : Int :=
  if d ≤ n then digitCount (n / d)
  else
    let count := digitCount (d / n)
    if d ≤ n * Nat.pow 10 (count - 1) then 2 - (count : Int) else 1 - (count : Int)

/-- Whether a decimal number rounds to the magnitude of a rank. All that `shortestDecimal` answers
is tested by this first, and the round trip `ofText?_toText` rests on the test, not on how the
digits were found. -/
def readsBack (rank coefficient : Nat) (exponent : Int) : Bool :=
  decimalRank coefficient exponent == rank

/-- Which neighbour on a grid to take, from whether the one below and the one above will do: the
nearer one if both do. Whichever is taken has passed its test (`readsBack_of_neighbour?`). -/
def neighbour? (low high : Bool) (below nearest : Nat) : Option Nat :=
  match low, high with
  | true, true => some nearest
  | true, false => some below
  | false, true => some (below + 1)
  | false, false => none

/-- The neighbour of the magnitude, on the grid of so many digits, that rounds to it; the nearer one
if both do. The grid of `count` digits has a step of `10 ^ (point - count)`. -/
def onGrid? (rank : Nat) (point : Int) (count : Nat) : Option (Nat × Int) :=
  let exponent := point - count
  let n := units rank * Nat.pow 10 (-exponent).toNat
  let d := Nat.pow 2 1074 * Nat.pow 10 exponent.toNat
  let below := n / d
  (neighbour? (readsBack rank below exponent) (readsBack rank (below + 1) exponent) below
    (Number.roundDiv n d)).map fun coefficient => (coefficient, exponent)

/-- A decimal number for the magnitude of a rank, with as few digits as any that rounds to it. Were
there none of up to seventeen digits, its exact expansion would do; so nothing has to be known about
seventeen digits for the number to read back. -/
def shortestDecimal (rank : Nat) : Nat × Int :=
  let point := pointOf (units rank) (Nat.pow 2 1074)
  -- Grids from coarse to fine: the first on which a neighbour reads back has the fewest digits.
  ((List.range 17).findSome? fun count => onGrid? rank point (count + 1)).getD
    (units rank * Nat.pow 5 1074, -1074)

/-- The digits and the place of the point of `shortestDecimal`. Final zeros go from the digits and
stay in the point. -/
def shortest (rank : Nat) : Shortest :=
  let decimal := shortestDecimal rank
  let digits := Nat.toDigits 10 decimal.1
  { digits := (digits.reverse.dropWhile (· == '0')).reverse
    point := digits.length + decimal.2 }

/-! ## Written form -/

structure Spelling where
  nan : String
  infinity : String
  deriving DecidableEq, Repr

def plain : Spelling := ⟨"nan", "inf"⟩

def writeExponent (exponent : Int) : List Char :=
  let digits := Nat.toDigits 10 exponent.natAbs
  (if exponent < 0 then '-' else '+') :: (if digits.length < 2 then '0' :: digits else digits)

/-- Lays out digits around the point. Positional notation serves from 10⁻⁴ up to 10¹⁶, with a digit
on both sides of the point; beyond that, one digit stands before the point. -/
def Shortest.layout (number : Shortest) : List Char :=
  if -4 < number.point ∧ number.point ≤ 16 then
    if number.point ≤ 0 then
      '0' :: '.' :: (List.replicate (-number.point).toNat '0' ++ number.digits)
    else
      let whole := number.point.toNat
      if number.digits.length ≤ whole then
        number.digits ++ List.replicate (whole - number.digits.length) '0' ++ ['.', '0']
      else number.digits.take whole ++ '.' :: number.digits.drop whole
  else
    let exponent := 'e' :: writeExponent (number.point - 1)
    match number.digits with
    | [] => exponent
    | [digit] => digit :: exponent
    | digit :: digits => digit :: '.' :: (digits ++ exponent)

/-- The written form of a number: the fewest digits that read back as it. It is the text of some
numeral that the reader takes (`exists_spelled_write`). A settings file and a message differ in the
`Spelling` alone. -/
def write (spelling : Spelling) : Binary64 → List Char
  | .nan => spelling.nan.toList
  | .infinite negative =>
    if negative then '-' :: spelling.infinity.toList else spelling.infinity.toList
  | .finite negative rank =>
    let magnitude := if rank.val = 0 then ['0', '.', '0'] else (shortest rank.val).layout
    if negative then '-' :: magnitude else magnitude

def toText (x : Binary64) : String := String.ofList (x.write plain)

/-- Reads a number as `toText` writes it; `ofText?_toText` is the round trip, for every number. -/
def ofText? (text : String) : Option Binary64 :=
  if text = "nan" then some .nan
  else if text = "inf" then some (.infinite false)
  else if text = "-inf" then some (.infinite true)
  else match Numeral.read? text.toList with
    | some (numeral, []) => some (ofNumeral numeral)
    | _ => none

end Binary64
end SpiceKit
