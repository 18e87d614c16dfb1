import SpiceKit.Json.Value
import SpiceKit.Text.Hex

/-!
# Reading JSON

The reader takes a value off the front of a text and answers with the rest. A fault is noted with
the number of characters that were left when it was found, so that no position has to be carried
along; `Fault.offset` turns that into a place in the text.

Beyond the standard grammar the numbers `NaN`, `Infinity` and `-Infinity` are read. An integer of
more than `Numeral.digitLimit` digits is refused, and so is a value nested deeper than
`nestingLimit`.

Values nest, so the reader recurses on a bound that is computed from the length of the text: every
level of nesting takes at least one character and at most two steps. The levels that are still
allowed are counted apart from it.
-/

set_option autoImplicit false

namespace SpiceKit
namespace Json

inductive Cause where
  | byteOrderMark
  | value
  | memberName
  | colon
  | comma
  | openString
  | controlCharacter
  | escape
  | unicodeEscape
  | extraData
  deriving DecidableEq, Repr

def Cause.message : Cause → String
  | .byteOrderMark => "Unexpected UTF-8 BOM (decode using utf-8-sig)"
  | .value => "Expecting value"
  | .memberName => "Expecting property name enclosed in double quotes"
  | .colon => "Expecting ':' delimiter"
  | .comma => "Expecting ',' delimiter"
  | .openString => "Unterminated string starting at"
  | .controlCharacter => "Invalid control character at"
  | .escape => "Invalid \\escape"
  | .unicodeEscape => "Invalid \\uXXXX escape"
  | .extraData => "Extra data"

inductive Container where
  | array
  | object
  deriving DecidableEq, Repr

def Container.word : Container → String
  | .array => "array"
  | .object => "object"

/-- What is wrong with a text: it is no JSON, with the cause and the number of characters left when
it was found; an integer has too many digits; or a container is nested too deep. `Settings.ofText`
makes a different fault of each of the three. -/
inductive Fault where
  | malformed (cause : Cause) (left : Nat)
  | oversized (digits : Nat)
  | nested (container : Container)
  deriving DecidableEq, Repr

def fail {α : Type} (cause : Cause) (rest : List Char) : Except Fault (α × List Char) :=
  .error (.malformed cause rest.length)

def skipSpace (cs : List Char) : List Char :=
  cs.dropWhile fun c => c == ' ' || c == '\t' || c == '\n' || c == '\r'

/-! ## Strings -/

def escaped? : Char → Option Nat
  | '"' => some 34
  | '\\' => some 92
  | '/' => some 47
  | 'b' => some 8
  | 'f' => some 12
  | 'n' => some 10
  | 'r' => some 13
  | 't' => some 9
  | _ => none

def fourDigits? (a b c d : Char) : Option Nat := do
  return (((← Text.hexValue? a) * 16 + (← Text.hexValue? b)) * 16 + (← Text.hexValue? c)) * 16 +
    (← Text.hexValue? d)

/-- Reads the inside of a string up to its closing quote, as code points and code units; `opened` is
the number of characters from the opening quote on. An escape of four digits needs a further
character behind it. What `writeString` wrote is read back by `readString_writeString`, one
`escapePoint` after another. -/
def readUnits (opened : Nat) : List Char → Except Fault (List Nat × List Char)
  | [] => .error (.malformed .openString opened)
  | ['\\'] => .error (.malformed .openString opened)
  | '"' :: cs => .ok ([], cs)
  | '\\' :: 'u' :: a :: b :: c :: d :: cs =>
    match cs, fourDigits? a b c d with
    | _ :: _, some unit => do
      let (units, rest) ← readUnits opened cs
      return (unit :: units, rest)
    -- Four good digits at the very end are refused as well, before the open string is noticed.
    | _, _ => fail .unicodeEscape ('u' :: a :: b :: c :: d :: cs)
  | '\\' :: 'u' :: cs => fail .unicodeEscape ('u' :: cs)
  | '\\' :: c :: cs =>
    match escaped? c with
    | some unit => do
      let (units, rest) ← readUnits opened cs
      return (unit :: units, rest)
    | none => fail .escape ('\\' :: c :: cs)
  | c :: cs =>
    if c.toNat < 32 then fail .controlCharacter (c :: cs)
    else do
      let (units, rest) ← readUnits opened cs
      return (c.toNat :: units, rest)

def isHighSurrogate (unit : Nat) : Bool := 0xD800 ≤ unit && unit < 0xDC00

def isLowSurrogate (unit : Nat) : Bool := 0xDC00 ≤ unit && unit < 0xE000

/-- The text of code points and code units: two halves of a surrogate pair are one character, and a
half alone is a `CodePoint.half`. So no text that is read holds a pair in two pieces, which is what
`joined_joinUnits` says of it. -/
def joinUnits : List Nat → List CodePoint
  | [] => []
  | [unit] => [.ofNat unit]
  | high :: low :: units =>
    if isHighSurrogate high && isLowSurrogate low then
      .char (Char.ofNat (0x10000 + (high - 0xD800) * 1024 + (low - 0xDC00))) :: joinUnits units
    -- The first unit stays alone; the second may still be the first half of a pair.
    else .ofNat high :: joinUnits (low :: units)

def readString (cs : List Char) : Except Fault (WideText × List Char) := do
  let (units, rest) ← readUnits (cs.length + 1) cs
  return (⟨joinUnits units⟩, rest)

/-! ## Values -/

def readNumber (cs : List Char) : Except Fault (Value × List Char) :=
  match Numeral.read? cs with
  | none => fail .value cs
  | some (numeral, rest) =>
    if numeral.isInteger then
      if Numeral.digitLimit < numeral.whole.length then .error (.oversized numeral.whole.length)
      else .ok (.int numeral.integer, rest)
    else .ok (.real (Binary64.ofNumeral numeral), rest)

/-- The values that are written as a word. `readScalar` looks for one of these before it looks for a
number, by prefix alone: letters behind the word are left to whoever reads on. -/
def words : List (List Char × Value) :=
  [("null".toList, .null), ("true".toList, .bool true), ("false".toList, .bool false),
    ("NaN".toList, .real .nan), ("Infinity".toList, .real (.infinite false)),
    ("-Infinity".toList, .real (.infinite true))]

def readScalar (cs : List Char) : Except Fault (Value × List Char) :=
  -- Words come first, or the minus sign of an infinity would start a number.
  match words.find? fun (word, _) => word.isPrefixOf cs with
  | some (word, value) => .ok (value, cs.drop word.length)
  | none => readNumber cs

/-- How many values may nest inside each other. This is no rule of the grammar: it stands for what
is left of the stack of the caller, and one that stands higher up reads a few levels more. The
number is that of a caller that runs a command line from a few calls further down. Of the results on
`read` none needs more of it than that an object may be opened. -/
def nestingLimit : Nat := 989

mutual

/-- Reads a value that nests no deeper than a number of levels. The first number bounds the steps
and the second the nesting; `read_mono_within` says that a reading which succeeds is the same under
any greater bounds. -/
def readValue : Nat → Nat → List Char → Except Fault (Value × List Char)
  | 0, _, cs => fail .value cs
  | bound + 1, levels, cs =>
    match cs with
    | '"' :: rest => do
      let (text, rest) ← readString rest
      return (.text text, rest)
    | '{' :: rest =>
      match levels with
      | 0 => .error (.nested .object)
      | levels + 1 =>
        match skipSpace rest with
        | '}' :: rest => .ok (.object [], rest)
        | rest => readMembers bound levels [] rest
    | '[' :: rest =>
      match levels with
      | 0 => .error (.nested .array)
      | levels + 1 =>
        match skipSpace rest with
        | ']' :: rest => .ok (.array [], rest)
        | rest => readItems bound levels [] rest
    | _ => readScalar cs

/-- Reads the members of an object, from a member's name to the closing brace, behind the given
ones. One round of it is a `MemberAt`, so that `readMembers_succ_eq_ok_iff` can speak of a member
without its spaces and colon. -/
def readMembers :
    Nat → Nat → List (String × Value) → List Char → Except Fault (Value × List Char)
  | 0, _, _, cs => fail .value cs
  | bound + 1, levels, members, cs =>
    match cs with
    | '"' :: rest => do
      let (name, rest) ← readString rest
      match skipSpace rest with
      | ':' :: rest =>
        let (value, rest) ← readValue bound levels (skipSpace rest)
        -- A name that is already there keeps its place and takes the new value.
        let members := setMember name.toString value members
        match skipSpace rest with
        | '}' :: rest => .ok (.object members, rest)
        | ',' :: rest => readMembers bound levels members (skipSpace rest)
        | rest => fail .comma rest
      | rest => fail .colon rest
    | _ => fail .memberName cs

/-- Reads the items of an array up to the closing bracket, behind the given ones, which stand last
first. Unlike the members of an object they are never looked up, so they are only turned around at
the end. -/
def readItems : Nat → Nat → List Value → List Char → Except Fault (Value × List Char)
  | 0, _, _, cs => fail .value cs
  | bound + 1, levels, items, cs => do
    let (value, rest) ← readValue bound levels cs
    match skipSpace rest with
    | ']' :: rest => .ok (.array (value :: items).reverse, rest)
    | ',' :: rest => readItems bound levels (value :: items) (skipSpace rest)
    | rest => fail .comma rest

end

/-- Reads a text that holds one value and nothing else but white space. A byte order mark at the
front is refused by name, before anything is read. -/
def read (cs : List Char) : Except Fault Value := do
  if cs.head? = some '\ufeff' then fail .byteOrderMark cs |>.map (·.1)
  else
    -- Of two readers that call each other at least one takes a character, so this bound is never
    -- what ends a reading.
    let (value, rest) ← readValue (2 * cs.length + 2) nestingLimit (skipSpace cs)
    match skipSpace rest with
    | [] => return value
    | rest => fail .extraData rest |>.map (·.1)

/-! ## Messages -/

/-- The wording of a fault in a text: the cause, and its line, column and offset. -/
def Fault.message (text : List Char) : Fault → String
  | .malformed cause left =>
    let before := text.take (text.length - left)
    let line := before.count '\n' + 1
    let column := (before.reverse.takeWhile (· ≠ '\n')).length + 1
    cause.message ++ ": line " ++ toString line ++ " column " ++ toString column ++ " (char " ++
      toString before.length ++ ")"
  | .oversized digits =>
    "Exceeds the limit (" ++ toString Numeral.digitLimit ++
      " digits) for integer string conversion: value has " ++ toString digits ++
      " digits; use sys.set_int_max_str_digits() to increase the limit"
  | .nested container =>
    "maximum recursion depth exceeded while decoding a JSON " ++ container.word ++
      " from a unicode string"

end Json
end SpiceKit
