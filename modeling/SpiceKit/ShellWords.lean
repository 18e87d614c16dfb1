import SpiceKit.Text.CodePoint

/-!
# Words of a command line

A setting that names a program may name arguments too. It is cut into words at spaces, tabs and
line ends. Single quotes keep everything between them; double quotes keep everything but a
backslash before a double quote or a backslash; outside quotes a backslash keeps the next
character. Quotes may stand anywhere in a word, and a pair of them with nothing inside is an empty
word or adds nothing to the word it stands in.
-/

set_option autoImplicit false

namespace SpiceKit
namespace ShellWords

inductive Fault where
  | openQuote
  | openEscape
  deriving DecidableEq, Repr

def Fault.message : Fault → String
  | .openQuote => "No closing quotation"
  | .openEscape => "No escaped character"

/-- Where the reader stands: between words, in a word, or in one of four kinds of quotation. Inside
a word, the characters read so far are kept last first. -/
inductive State where
  | between
  | word (taken : List CodePoint)
  | escape (taken : List CodePoint)
  | single (taken : List CodePoint)
  | double (taken : List CodePoint)
  | doubleEscape (taken : List CodePoint)
  deriving DecidableEq, Repr

def separates : CodePoint → Bool
  | .char c => c == ' ' || c == '\t' || c == '\r' || c == '\n'
  | .half _ => false

/-- The state after an unquoted character of a word, of which the given characters are read. It
serves for the first character of a word as for the later ones, since a word may begin with a
quotation. -/
def enter (taken : List CodePoint) (c : CodePoint) : State :=
  if c = .char '\\' then .escape taken
  else if c = .char '\'' then .single taken
  else if c = .char '"' then .double taken
  else .word (c :: taken)

/-- The words of a text, read on from a state. At the end of the text the state decides: an open
quotation and a final backslash are faults, and a word that was begun is a word even when it is
empty. -/
def wordsFrom : State → List CodePoint → Except Fault (List (List CodePoint))
  | .between, [] => .ok []
  | .word taken, [] => .ok [taken.reverse]
  | .escape _, [] => .error .openEscape
  | .doubleEscape _, [] => .error .openEscape
  | .single _, [] => .error .openQuote
  | .double _, [] => .error .openQuote
  | .between, c :: cs =>
    if separates c then wordsFrom .between cs else wordsFrom (enter [] c) cs
  | .word taken, c :: cs =>
    if separates c then (wordsFrom .between cs).map (taken.reverse :: ·)
    else wordsFrom (enter taken c) cs
  | .escape taken, c :: cs => wordsFrom (.word (c :: taken)) cs
  | .single taken, c :: cs =>
    if c = .char '\'' then wordsFrom (.word taken) cs else wordsFrom (.single (c :: taken)) cs
  -- Only a quotation mark and a backslash are escaped in double quotes; before anything else the
  -- backslash stands for itself.
  | .double taken, c :: cs =>
    if c = .char '"' then wordsFrom (.word taken) cs
    else if c = .char '\\' then wordsFrom (.doubleEscape taken) cs
    else wordsFrom (.double (c :: taken)) cs
  | .doubleEscape taken, c :: cs =>
    if c = .char '"' ∨ c = .char '\\' then wordsFrom (.double (c :: taken)) cs
    else wordsFrom (.double (c :: .char '\\' :: taken)) cs

def split (text : WideText) : Except Fault (List WideText) :=
  (wordsFrom .between text.points).map (List.map WideText.mk)

end ShellWords
end SpiceKit
