/-!
# Cutting text at separators

Three ways of seeing lines. `split` cuts at one character and is the plain definition of the lines
of a document (at `\n`) and of the segments of a path (at `/`). `unifyNewlines` is what reading a
text file does to its line ends. `splitBreaks` cuts at every line break of Unicode and, unlike
`split`, gives no empty last line after a final break.
-/

set_option autoImplicit false

namespace SpiceKit
namespace Text

/-- The pieces of a text between the occurrences of a separator; one more than there are separators
(`split_ne_nil` says at least one). Joined by the separator again they are the text. -/
def split (separator : Char) : List Char → List (List Char)
  | [] => [[]]
  | c :: cs =>
    if c = separator then [] :: split separator cs
    else match split separator cs with
      | [] => [[c]]
      | piece :: pieces => (c :: piece) :: pieces

def lines (cs : List Char) : List (List Char) := split '\n' cs

/-- Every carriage return followed by a line feed, and every other carriage return, becomes one line
feed. A text without carriage returns stays as it is (`unifyNewlines_of_not_mem`), and what is left
has none. -/
def unifyNewlines : List Char → List Char
  | [] => []
  | '\r' :: '\n' :: cs => '\n' :: unifyNewlines cs
  | '\r' :: cs => '\n' :: unifyNewlines cs
  | c :: cs => c :: unifyNewlines cs

def isLineBreak (c : Char) : Bool :=
  c == '\n' || c == '\x0b' || c == '\x0c' || c == '\r' || c == '\x1c' || c == '\x1d' ||
    c == '\x1e' || c == '\u0085' || c == '\u2028' || c == '\u2029'

/-- The lines ended by a line break or by the end of the text. A text that ends in a break has no
further, empty line. Expects unified newlines: `\r\n` would count as two breaks. -/
def splitBreaks : List Char → List (List Char)
  | [] => []
  | c :: cs =>
    if isLineBreak c then [] :: splitBreaks cs
    else match splitBreaks cs with
      | [] => [[c]]
      | line :: rest => (c :: line) :: rest

theorem split_ne_nil (separator : Char) (cs : List Char) : split separator cs ≠ [] := by
  cases cs with
  | nil => simp [split]
  | cons c cs =>
    rw [split]
    split
    · simp
    · split <;> simp

end Text
end SpiceKit
