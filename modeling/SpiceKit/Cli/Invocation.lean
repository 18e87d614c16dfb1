import SpiceKit.Cli.Arguments
import SpiceKit.Consent
import SpiceKit.Number.Integer

/-!
# The commands

What a command line asks for. Options for all commands stand before the command, those of a command
behind it. A command line that is not understood is no invocation at all; why is not recorded.

`Invocation.read?` reads the options in front and leaves the rest to `Command.read?`, so each of the
two knows its own options only. An `Invocation` is all that `Cli.perform` sees of a command line:
what is not in it, such as an option that was given twice, makes no difference.
-/

set_option autoImplicit false

namespace SpiceKit
namespace Cli

inductive Format where
  | table
  | json
  deriving DecidableEq, Repr

/-- A command and its options. Lines and columns are as typed, from one. -/
inductive Command where
  | outline (file : String) (format : Format)
  | lint (path : String) (format : Format)
  | definition (file : String) (line column : Int)
  | compile (file : String) (answer : Option Consent.Choice)
  | run (file : String) (answer : Option Consent.Choice)
  | check (file : String)
  | restoreWarning
  deriving DecidableEq, Repr

structure Invocation where
  settings : Option String
  compiler : Option String
  command : Command
  deriving DecidableEq, Repr

def Format.ofWord? : String → Option Format
  | "table" => some .table
  | "json" => some .json
  | _ => none

def format? (given : List Given) : Option Format :=
  -- Every value that is given is checked, though only the last one counts.
  if allAccepted given "--format" fun word => (Format.ofWord? word).isSome then
    some (((value? given "--format").bind Format.ofWord?).getD .table)
  else none

def integerOf? (given : List Given) (name : String) : Option Int :=
  if allAccepted given name fun word => (Number.integer? word.toList).isSome then
    (value? given name).bind fun word => Number.integer? word.toList
  else none

/-- The answer that is given in advance. It cannot be both. -/
def answer? (given : List Given) : Option (Option Consent.Choice) :=
  match has given "--yes", has given "--no" with
  | true, true => none
  | true, false => some (some .proceed)
  | false, true => some (some .cancel)
  | false, false => some none

def optionsOnly? (specs : List Spec) (arguments : List String) : Option (List Given) :=
  match readOptions specs arguments with
  | some (given, []) => some given
  | _ => none

def consentSpecs : List Spec :=
  [{ name := "--file" }, { name := "--yes", takesValue := false },
    { name := "--no", takesValue := false }]

/-- Reads a command from its name and the arguments behind it, with the options of that command. An
argument list that the command cannot make sense of as a whole is no command at all. -/
def Command.read? (name : String) (arguments : List String) : Option Command :=
  match name with
  | "outline" => do
    let given ← optionsOnly? [{ name := "--file" }, { name := "--format" }] arguments
    return .outline (← value? given "--file") (← format? given)
  | "lint" => do
    let given ← optionsOnly? [{ name := "--path" }, { name := "--format" }] arguments
    return .lint (← value? given "--path") (← format? given)
  | "definition" => do
    let given ← optionsOnly? [{ name := "--file" }, { name := "--line" }, { name := "--column" }]
      arguments
    return .definition (← value? given "--file") (← integerOf? given "--line")
      (← integerOf? given "--column")
  | "compile" => do
    let given ← optionsOnly? consentSpecs arguments
    return .compile (← value? given "--file") (← answer? given)
  | "run" => do
    let given ← optionsOnly? consentSpecs arguments
    return .run (← value? given "--file") (← answer? given)
  | "check" => do
    let given ← optionsOnly? [{ name := "--file" }] arguments
    return .check (← value? given "--file")
  | "enable-override-check" => do
    let _ ← optionsOnly? [] arguments
    return .restoreWarning
  | _ => none

def Invocation.read? (arguments : List String) : Option Invocation := do
  let (given, rest) ←
    readOptions [{ name := "--settings" }, { name := "--compiler-path" }] arguments
  match rest with
  | [] => none
  | name :: rest =>
    return { settings := value? given "--settings", compiler := value? given "--compiler-path"
             command := ← Command.read? name rest }

end Cli
end SpiceKit
