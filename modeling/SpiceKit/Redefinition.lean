import SpiceKit.Source
import SpiceKit.Vocabulary

/-!
# Redefined names

A program that defines a function or assigns a variable under a reserved name hides the built-in
meaning of that name. The check is made line by line on the trimmed line, and a line redefines at
most one name.

Only whole-line comments are known: a line that starts with `#` or `//` is skipped, anything else
is judged as it stands. A line that starts like a function definition is judged as one and never as
an assignment. An assignment line that holds a comparison anywhere is left alone.
-/

set_option autoImplicit false

namespace SpiceKit

inductive Form where
  | function
  | assignment
  deriving DecidableEq, Repr

namespace Form

def word : Form → String
  | .function => "function"
  | .assignment => "assignment"

def label : Form → String
  | .function => "function definition"
  | .assignment => "variable assignment"

end Form

/-- A line that gives a reserved name a new meaning. Lines count from one. -/
structure Redefinition where
  name : String
  line : Int
  form : Form
  deriving DecidableEq, Repr

namespace Redefinition

open Text

def modifiers : List (List Char) := ["static".toList, "final".toList, "abstract".toList]

def afterModifiers (cs : List Char) : List Char :=
  match h : dropModifier? modifiers cs with
  | none => cs
  | some rest =>
    have := length_dropModifier?_lt h
    afterModifiers rest
termination_by cs.length

/-- The name that a line defines as a function: any modifiers, `def`, a gap, the name, any gap and
an opening parenthesis. -/
def functionName? (line : List Char) : Option (List Char) := do
  let afterDef ← dropText? "def".toList (afterModifiers line)
  let (name, rest) ← takeName? (← dropGap? afterDef)
  match dropGap rest with
  | '(' :: _ => some name
  | _ => none

/-- The name that a line assigns: the name, any gap and an equals sign. -/
def assignedName? (line : List Char) : Option (List Char) := do
  let (name, rest) ← takeName? line
  match dropGap rest with
  | '=' :: _ => some name
  | _ => none

/-- Whether a text holds one of `==`, `!=`, `<=`, `>=`. -/
def hasComparison : List Char → Bool
  | [] => false
  | c :: cs => ((c == '=' || c == '!' || c == '<' || c == '>') && cs.head? == some '=') ||
      hasComparison cs

def isComment : List Char → Bool
  | '#' :: _ => true
  | '/' :: '/' :: _ => true
  | _ => false

/-- The reserved name that a trimmed line gives a new meaning, and how. A function is looked for
first; a line that starts one is no assignment, whatever follows. -/
def ofTrimmed? (reserved : List String) (line : List Char) : Option (String × Form) :=
  if isComment line then none
  else match functionName? line with
    | some name =>
      -- A function of another name settles the line too: it is not looked at as an assignment.
      if String.ofList name ∈ reserved then some (String.ofList name, .function) else none
    | none => match assignedName? line with
      | some name =>
        if String.ofList name ∈ reserved ∧ hasComparison line = false then
          some (String.ofList name, .assignment)
        else none
      | none => none

def ofLine? (reserved : List String) (number : Nat) (line : List Char) : Option Redefinition :=
  (ofTrimmed? reserved (trim line)).map fun (name, form) => ⟨name, number, form⟩

end Redefinition

namespace Source

/-- The redefinitions of reserved names in a document, in order of line. -/
def redefinitions (source : Source) (reserved : List String) : List Redefinition :=
  (source.lines.zipIdx 1).filterMap fun (line, number) =>
    Redefinition.ofLine? reserved number line

end Source
end SpiceKit
