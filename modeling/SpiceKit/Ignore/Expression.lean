import SpiceKit.Ignore.Matcher

/-!
# The expression of a pattern

A sequence of elements has a written form as a regular expression. The form matters for one thing
only: a range whose ends are in the wrong order, such as `z-a`, makes the whole pattern a fault, and
the fault names the place of the range in the expression.

The expression starts with an anchor. Nothing behind the last element that can hold a range matters
here, so the marks at the end of a path are written without their names.
-/

set_option autoImplicit false

namespace SpiceKit
namespace Ignore

def special : List Char := "()[]\x7b\x7d?*+-|^$\\.&~# \t\n\r\x0b\x0c".toList

def escapeLiteral (c : Char) : List Char := if c ∈ special then ['\\', c] else [c]

def escapeListed (c : Char) : List Char := if c = '\\' then ['\\', c] else [c]

def Member.expression : Member → List Char
  | .one c => escapeListed c
  | .range low high => escapeListed low ++ '-' :: escapeListed high

def setOpening (negated : Bool) : List Char := if negated then ['[', '^'] else ['[']

def Element.expression : Element → List Char
  | .literal c => escapeLiteral c
  | .anyOne => "[^/]".toList
  | .anyRun => "[^/]*".toList
  | .someRun => "[^/]+".toList
  | .oneOf negated members => setOpening negated ++ members.flatMap Member.expression ++ [']']
  | .leadingFolders => "(?:.+/)?".toList
  | .innerFolders => "(?:/.+)?".toList
  | .slash _ => ['/']
  | .finish => "(?:/|$)".toList

def anchor : List Char := ['^']

def expression (elements : List Element) : List Char :=
  anchor ++ elements.flatMap Element.expression

/-- A range whose ends are in the wrong order, and its place in the expression. The first one is all
that `Reversed.message` tells; later ones are not looked for. -/
structure Reversed where
  low : Char
  high : Char
  position : Nat
  deriving DecidableEq, Repr

def Reversed.message (range : Reversed) : String :=
  "bad character range " ++ String.ofList (Member.range range.low range.high).expression ++
    " at position " ++ toString range.position

/-- The first range in the wrong order in a set, the members of which are written from a position
on. A range of one character, such as `a-a`, is in order. -/
def reversedListed? (position : Nat) : List Member → Option Reversed
  | [] => none
  | .range low high :: members =>
    if high < low then some ⟨low, high, position⟩
    else reversedListed? (position + (Member.range low high).expression.length) members
  | .one c :: members => reversedListed? (position + (Member.one c).expression.length) members

def reversedFrom? (position : Nat) : List Element → Option Reversed
  | [] => none
  | element :: elements =>
    let own := match element with
      | .oneOf negated members => reversedListed? (position + (setOpening negated).length) members
      | _ => none
    own.or (reversedFrom? (position + element.expression.length) elements)

/-- The first range in the wrong order in a sequence of elements, with its place behind the
`anchor`. `Shape.ordered` turns it into the fault of a pattern. -/
def reversed? (elements : List Element) : Option Reversed :=
  reversedFrom? anchor.length elements

end Ignore
end SpiceKit
