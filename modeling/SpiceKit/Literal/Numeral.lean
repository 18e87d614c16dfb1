import SpiceKit.Literal.Token
import SpiceKit.Text.Identifier

/-!
# Numbers of a literal

A number is decimal, with a fraction and an exponent if need be, or hexadecimal, octal or binary
behind a zero and a letter. An underscore may stand between two digits. A number must not run into a
name, except that some keywords may follow it directly.

A reader here takes the text of a number and gives what is left of it.
-/

set_option autoImplicit false

namespace SpiceKit
namespace Literal
namespace Numeral

def inPlainName (c : Char) : Bool := c.isAlphanum || c == '_'

/-- Whether a character may stand in a name as far as a scanner can tell at first sight. What is
beyond ASCII passes for now, and `wrongInName?` looks again. -/
def inName (c : Char) : Bool := inPlainName c || 128 ≤ c.toNat

def startsWord (word : String) (cs : List Char) : Bool :=
  word.toList.isPrefixOf cs && !((cs.drop word.length).head?.any inName)

def wordsBehind : List String := ["and", "else", "for", "or", "not"]

def letterPairsBehind : List String := ["if", "in", "is"]

def startsKeyword (cs : List Char) : Bool :=
  wordsBehind.any (startsWord · cs) || letterPairsBehind.any (·.toList.isPrefixOf cs)

/-- The text behind a number, which must not go on like a name of ASCII characters. -/
def ended (system : NumberSystem) (cs : List Char) : Except ScanFault (List Char) :=
  if startsKeyword cs || !cs.head?.any inPlainName then .ok cs else .error (.number system)

/-- The text behind digits of which one has been read. Behind an underscore a digit is due. -/
def afterDigits (due : Bool) : List Char → Except ScanFault (List Char)
  | [] => if due then .error (.number .decimal) else .ok []
  | c :: cs =>
    if c.isDigit then afterDigits false cs
    else if due then .error (.number .decimal)
    else if c = '_' then afterDigits true cs
    else .ok (c :: cs)

/-- The text behind a number from the letter of its imaginary unit on, if it has one. -/
def afterUnit (cs : List Char) : Except ScanFault (List Char) :=
  match cs with
  | 'j' :: cs => ended .imaginary cs
  | 'J' :: cs => ended .imaginary cs
  | cs => ended .decimal cs

/-- The text behind a number from its exponent on, if it has one. An `e` without digits belongs to a
keyword or is wrong. -/
def afterExponent (cs : List Char) : Except ScanFault (List Char) :=
  match cs with
  | c :: rest =>
    if c = 'e' ∨ c = 'E' then
      match rest with
      | d :: rest' =>
        if d.isDigit then do afterUnit (← afterDigits false rest')
        else if d = '+' ∨ d = '-' then
          match rest' with
          | e :: rest'' =>
            if e.isDigit then do afterUnit (← afterDigits false rest'')
            else .error (.number .decimal)
          | [] => .error (.number .decimal)
        -- The `e` may be the first letter of `else`.
        else ended .decimal cs
      | [] => ended .decimal cs
    else afterUnit cs
  | [] => .ok []

def afterPoint (cs : List Char) : Except ScanFault (List Char) :=
  match cs with
  | c :: rest => if c.isDigit then do afterExponent (← afterDigits false rest) else afterExponent cs
  | [] => .ok []

def afterWhole (cs : List Char) : Except ScanFault (List Char) :=
  match cs with
  | '.' :: rest => afterPoint rest
  | cs => afterExponent cs

/-- The text behind the digits of a number in a system other than the decimal one. At first, and
behind an underscore, a digit is due. -/
def afterBased (system : NumberSystem) (isDigit : Char → Bool) (due first : Bool) :
    List Char → Except ScanFault (List Char)
  | [] => if due then .error (.number system) else .ok []
  | c :: cs =>
    if isDigit c then afterBased system isDigit false false cs
    else if c = '_' ∧ (first ∨ ¬ due) then afterBased system isDigit true false cs
    else if c.isDigit then .error (.digit c system)
    else if due then .error (.number system)
    else ended system (c :: cs)

/-- The text behind further zeros at the start of a number, and whether an underscore without a
digit stands there. -/
def afterZeros : List Char → Except ScanFault (List Char)
  | '0' :: cs => afterZeros cs
  | '_' :: c :: cs =>
    if c = '0' then afterZeros cs
    else if c.isDigit then .ok (c :: cs)
    else .error (.number .decimal)
  | ['_'] => .error (.number .decimal)
  | cs => .ok cs

/-- The text behind a number that starts with a zero, from behind that zero on. A whole number that
is not zero must not start with one. -/
def afterZero (cs : List Char) : Except ScanFault (List Char) := do
  match ← afterZeros cs with
  | [] => return []
  | c :: rest =>
    -- The zeros were not all: a point, an exponent or a unit must make up for the first.
    if c.isDigit then
      match ← afterDigits false rest with
      | [] => throw .leadingZero
      | d :: rest =>
        if d = '.' then afterPoint rest
        else if d = 'e' ∨ d = 'E' then afterExponent (d :: rest)
        else if d = 'j' ∨ d = 'J' then afterUnit (d :: rest)
        else throw .leadingZero
    else afterWhole (c :: rest)

def rest (cs : List Char) : Except ScanFault (List Char) :=
  match cs with
  | '0' :: letter :: cs =>
    if letter = 'x' ∨ letter = 'X' then
      afterBased .hexadecimal (fun c => (Text.hexValue? c).isSome) true true cs
    else if letter = 'o' ∨ letter = 'O' then
      afterBased .octal (fun c => '0' ≤ c && c ≤ '7') true true cs
    else if letter = 'b' ∨ letter = 'B' then
      afterBased .binary (fun c => c == '0' || c == '1') true true cs
    else afterZero (letter :: cs)
  | '0' :: cs => afterZero cs
  | _ :: cs => do afterWhole (← afterDigits false cs)
  | [] => .ok []

def isImaginary (text : List Char) : Bool :=
  text.getLast?.any fun c => c == 'j' || c == 'J'

end Numeral
end Literal
end SpiceKit
