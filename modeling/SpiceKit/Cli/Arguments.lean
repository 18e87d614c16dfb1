import SpiceKit.Text.DecimalDigit

/-!
# Options on a command line

A command line is a sequence of options and words. An option is written in full or by any
beginning that no other option shares, and its value stands behind an equals sign or is the next
argument. An argument that looks like an option cannot be a value, but a negative number and an
argument with a space in it do not look like one.

Help, `--` on its own and unknown options are never accepted here: they end in a refusal like any
other misuse.
-/

set_option autoImplicit false

namespace SpiceKit
namespace Cli

/-- An option: its name, with the two dashes, and whether it takes a value. -/
structure Spec where
  name : String
  takesValue : Bool := true
  deriving DecidableEq, Repr

inductive Token where
  | word
  | option (spec : Spec) (attached : Option (List Char))
  | refused
  deriving DecidableEq, Repr

def helpSpec : Spec := { name := "--help", takesValue := false }

/-- A minus sign and decimal digits, possibly with a point before the last of them; a final line
feed is not seen. -/
def isNegativeNumber (argument : List Char) : Bool :=
  let isDigit (c : Char) := (Text.decimalDigit? c).isSome
  match argument with
  | '-' :: number =>
    let number := if number.getLast? = some '\n' then number.dropLast else number
    match number.dropWhile isDigit with
    | [] => number ≠ []
    | '.' :: fraction => fraction ≠ [] && fraction.all isDigit
    | _ => false
  | _ => false

def cutAtEquals (argument : List Char) : List Char × Option (List Char) :=
  match argument.dropWhile (· ≠ '=') with
  | [] => (argument, none)
  | _ :: value => (argument.takeWhile (· ≠ '='), some value)

def unmatched (argument : List Char) : Token :=
  if isNegativeNumber argument || argument.contains ' ' then .word else .refused

/-- The options that an argument with two dashes may mean: the one that it names in full, otherwise
all that begin with it. -/
def candidates (specs : List Spec) (name : List Char) : List Spec :=
  match specs.find? fun spec => spec.name.toList = name with
  | some spec => [spec]
  | none => specs.filter fun spec => name.isPrefixOf spec.name.toList

/-- What an argument is taken for, among some options and help, whatever stands around it: a word,
an option with or without its value attached, or something refused. A request for help and a bare
double dash are refused like anything that fits no option or several. -/
def classify (specs : List Spec) (argument : List Char) : Token :=
  match argument with
  | [] => .word
  | ['-'] => .word
  | ['-', '-'] => .refused
  | '-' :: '-' :: _ =>
    let (name, attached) := cutAtEquals argument
    match candidates (helpSpec :: specs) name with
    | [] => unmatched argument
    -- To ask for help is to be shown it and to do nothing, which ends like a refusal.
    | [spec] => if spec = helpSpec then .refused else .option spec attached
    | _ => .refused
  | '-' :: 'h' :: _ => .refused
  | '-' :: _ => unmatched argument
  | _ => .word

structure Given where
  name : String
  value : String := ""
  deriving DecidableEq, Repr

/-- Reads options up to the first word that is not a value; the word and what follows it are left.
The options of the program stand before the name of the command, and those of the command behind it,
so this is done twice. -/
def readOptions (specs : List Spec) : List String → Option (List Given × List String)
  | [] => some ([], [])
  | argument :: rest =>
    match classify specs argument.toList with
    | .word => some ([], argument :: rest)
    | .refused => none
    | .option spec attached =>
      if spec.takesValue then
        match attached, rest with
        | some value, rest => do
          let (given, left) ← readOptions specs rest
          return (⟨spec.name, String.ofList value⟩ :: given, left)
        | none, [] => none
        | none, value :: rest =>
          -- What looks like an option is never taken for the value of one.
          if classify specs value.toList = .word then do
            let (given, left) ← readOptions specs rest
            return (⟨spec.name, value⟩ :: given, left)
          else none
      else if attached.isSome then none
      else do
        let (given, left) ← readOptions specs rest
        return (⟨spec.name, ""⟩ :: given, left)

/-- The value of an option; of several, the last. -/
def value? (given : List Given) (name : String) : Option String :=
  (given.reverse.find? fun option => option.name = name).map Given.value

def has (given : List Given) (name : String) : Bool := given.any fun option => option.name = name

def allAccepted (given : List Given) (name : String) (accepted : String → Bool) : Bool :=
  given.all fun option => option.name ≠ name || accepted option.value

end Cli
end SpiceKit
