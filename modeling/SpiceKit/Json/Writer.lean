import SpiceKit.Json.Value
import SpiceKit.Text.Hex

/-!
# Writing JSON

Values are written over several lines, two columns deeper with each level, and in ASCII alone:
every other character becomes an escape, or a pair of them. Members are written in the order they
have. The numbers that JSON proper lacks are spelled `NaN`, `Infinity` and `-Infinity`.

`writeValue` and its two companions follow the reader of `Json/Reader`, one case for each form of
value; `read_write_object` puts the two together for the flat objects that settings are.
-/

set_option autoImplicit false

namespace SpiceKit
namespace Json

/-- The spelling of the numbers that are not finite. `Json.words` holds the same three words, so a
written number is read back whatever it is (`readAs_real`). -/
def spelling : Binary64.Spelling := ⟨"NaN", "Infinity"⟩

def escapeUnit (unit : Nat) : List Char := '\\' :: 'u' :: Text.hexDigits 4 unit

def escapeChar (c : Char) : List Char :=
  if c = '"' then ['\\', '"']
  else if c = '\\' then ['\\', '\\']
  else if c = '\n' then ['\\', 'n']
  else if c = '\r' then ['\\', 'r']
  else if c = '\t' then ['\\', 't']
  else if c = '\x0c' then ['\\', 'f']
  else if c = '\x08' then ['\\', 'b']
  else if 32 ≤ c.toNat ∧ c.toNat < 127 then [c]
  else if c.toNat < 0x10000 then escapeUnit c.toNat
  else
    escapeUnit (0xD800 + (c.toNat - 0x10000) / 1024) ++
      escapeUnit (0xDC00 + (c.toNat - 0x10000) % 1024)

def escapePoint : CodePoint → List Char
  | .char c => escapeChar c
  | .half index => escapeUnit (CodePoint.half index).toNat

def writeString (text : WideText) : List Char :=
  '"' :: (text.points.flatMap escapePoint ++ ['"'])

def newline (level : Nat) : List Char := '\n' :: List.replicate (2 * level) ' '

def writeInt (n : Int) : List Char :=
  if n < 0 then '-' :: Nat.toDigits 10 n.natAbs else Nat.toDigits 10 n.natAbs

mutual

def writeValue (level : Nat) : Value → List Char
  | .null => "null".toList
  | .bool b => if b then "true".toList else "false".toList
  | .int n => writeInt n
  | .real x => x.write spelling
  | .text s => writeString s
  | .array [] => ['[', ']']
  | .array (item :: items) =>
    '[' :: (newline (level + 1) ++ writeValue (level + 1) item ++ writeItems (level + 1) items ++
      newline level ++ [']'])
  | .object [] => ['{', '}']
  | .object ((name, value) :: members) =>
    '{' :: (newline (level + 1) ++ writeString name ++ [':', ' '] ++
      writeValue (level + 1) value ++ writeMembers (level + 1) members ++ newline level ++ ['}'])

def writeItems (level : Nat) : List Value → List Char
  | [] => []
  | item :: items => ',' :: (newline level ++ writeValue level item ++ writeItems level items)

/-- Writes the members of an object behind the first, each with a comma before it. Each member
starts on a line of its own. -/
def writeMembers (level : Nat) : List (String × Value) → List Char
  | [] => []
  | (name, value) :: members =>
    ',' :: (newline level ++ writeString name ++ [':', ' '] ++ writeValue level value ++
      writeMembers level members)

end

def write (value : Value) : List Char := writeValue 0 value

end Json
end SpiceKit
