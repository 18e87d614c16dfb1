import SpiceKit.Literal.Value
import SpiceKit.Text.Blank
import SpiceKit.Text.Quoted
import SpiceKit.Text.WordChar

/-!
# Handlers in markup

A tag may name an event instead of a style, and behind an equals sign what is to handle it: the name
of a handler with its arguments in parentheses, or without any, or just a literal. The arguments are
read when the tag is closed, and a screen that knows no events still reads them, only to forget
them.
-/

set_option autoImplicit false

namespace SpiceKit
namespace Handler

/-- What is wrong with a handler: what was written, the literal in it, and why that is none. -/
structure Fault where
  written : List Char
  literal : List Char
  cause : Literal.Fault
  deriving DecidableEq, Repr

def Fault.message (fault : Fault) : String :=
  let written := String.ofList (Text.quote fault.written)
  match fault.cause with
  | .text cause =>
    "error parsing " ++ String.ofList (Text.quote fault.literal) ++ " in " ++ written ++ "; " ++
      cause.message
  | cause => "error parsing " ++ written ++ "; " ++ cause.message

def inName (c : Char) : Bool := Text.isWordChar c || c == '.'

def isArguments (cs : List Char) : Bool :=
  2 ≤ cs.length && cs.head? == some '(' && cs.getLast? == some ')' && !cs.contains '\n'

/-- The literal in a handler: the arguments behind its name, which may be left out, or all of it if
it is not written like that. -/
def literal (handler : List Char) : List Char :=
  match handler.dropWhile inName with
  | [] => "()".toList
  | behind => if isArguments behind then behind else handler

/-- Makes sure that what is written behind an event is a handler. Nothing is ever done with one, but
a fault in it ends the drawing of the title. -/
def check (written : List Char) : Except Fault Unit :=
  let found := literal (Text.trim written)
  (Literal.check found).mapError (⟨written, found, ·⟩)

end Handler
end SpiceKit
