import SpiceKit.Json.Reader
import SpiceKit.Json.Writer

/-!
# Settings

What a user may set, and its form as a flat JSON object. Reading takes the known members in the
order in which they stand: the first with a value of the wrong type is the fault that is reported.
Unknown members are skipped, and a setting that is absent has its default.

The time limit is written as an integer or a real; an integer beyond the greatest real is a fault
of its own, and is met only after all types have been found right.
-/

set_option autoImplicit false

namespace SpiceKit

/-- What a user may set: the compiler and the runner, whether a document is checked as it is edited,
whether redefined built-ins are warned of, and how long the compiler may take, in seconds. The two
commands are `WideText`, for a settings file can hold half of a surrogate pair. -/
structure Settings where
  compiler : WideText := "spicy"
  runner : WideText := "spice"
  liveCheck : Bool := true
  redefinitionCheck : Bool := true
  timeLimit : Binary64 := .ofDecimal false 60 0
  deriving DecidableEq, Repr

namespace Settings

def withRedefinitionCheck (settings : Settings) (on : Bool) : Settings :=
  { settings with redefinitionCheck := on }

inductive Key where
  | compiler
  | runner
  | liveCheck
  | redefinitionCheck
  | timeLimit
  deriving DecidableEq, Repr

namespace Key

def name : Key → String
  | .compiler => "compiler_path"
  | .runner => "runner_path"
  | .liveCheck => "enable_diagnostics"
  | .redefinitionCheck => "check_builtin_overrides"
  | .timeLimit => "process_timeout_seconds"

/-- All settings, in increasing order of member name. That is the order in which `toJson` writes
them; they are read in any order. -/
def all : List Key := [.redefinitionCheck, .compiler, .liveCheck, .timeLimit, .runner]

def ofName? (name : String) : Option Key := all.find? fun key => key.name = name

def expected : Key → String
  | .compiler => "a string"
  | .runner => "a string"
  | .liveCheck => "a boolean"
  | .redefinitionCheck => "a boolean"
  | .timeLimit => "a number"

/-- Whether a value is of the type that a setting expects. A Boolean is no number here.
`Key.accepts_iff` turns this into the cases of `Key.Fits`. -/
def accepts : Key → Json.Value → Bool
  | .compiler, .text _ => true
  | .runner, .text _ => true
  | .liveCheck, .bool _ => true
  | .redefinitionCheck, .bool _ => true
  | .timeLimit, .int _ => true
  | .timeLimit, .real _ => true
  | _, _ => false

end Key

inductive Fault where
  | wrongType (key : Key) (found : String)
  | hugeTimeLimit
  deriving DecidableEq, Repr

/-- The first member whose value its setting does not accept. Members of unknown names are passed
over, whatever they hold. -/
def firstWrong? (members : List (String × Json.Value)) : Option Fault :=
  members.findSome? fun (name, value) =>
    match Key.ofName? name with
    | none => none
    | some key => if key.accepts value then none else some (.wrongType key value.typeName)

def assignLimit (settings : Settings) : Option Binary64 → Except Fault Settings
  | some x => .ok { settings with timeLimit := x }
  | none => .error .hugeTimeLimit

/-- Takes over the value of one member. A value of the wrong type changes nothing, but `ofMembers`
lets none come this far: all types have been checked by `firstWrong?`. -/
def assign (settings : Settings) : Key → Json.Value → Except Fault Settings
  | .compiler, .text s => .ok { settings with compiler := s }
  | .runner, .text s => .ok { settings with runner := s }
  | .liveCheck, .bool b => .ok { settings with liveCheck := b }
  | .redefinitionCheck, .bool b => .ok { settings with redefinitionCheck := b }
  | .timeLimit, .real x => .ok { settings with timeLimit := x }
  | .timeLimit, .int n => settings.assignLimit (Binary64.ofInt? n)
  | _, _ => .ok settings

/-- Takes over the members of an object, one after another. Behind `firstWrong?` only a time limit
that is too great can stop it (`assignAll_eq_error`). -/
def assignAll (settings : Settings) : List (String × Json.Value) → Except Fault Settings
  | [] => .ok settings
  | (name, value) :: members =>
    match Key.ofName? name with
    | none => assignAll settings members
    | some key => do assignAll (← assign settings key value) members

/-- The settings that the members of an object give, or the fault of one of them.
`load_follows_last_values` describes the outcome by the text that was read, without this walk over
members. -/
def ofMembers (members : List (String × Json.Value)) : Except Fault Settings :=
  -- All types are checked before any value is taken over.
  match firstWrong? members with
  | some fault => .error fault
  | none => assignAll {} members

def value (settings : Settings) : Key → Json.Value
  | .compiler => .text settings.compiler
  | .runner => .text settings.runner
  | .liveCheck => .bool settings.liveCheck
  | .redefinitionCheck => .bool settings.redefinitionCheck
  | .timeLimit => .real settings.timeLimit

/-- The settings as a JSON object, members in increasing order of name. Each setting has one member,
so `ofMembers_members` reads all of them back. -/
def toJson (settings : Settings) : Json.Value :=
  .object (Key.all.map fun key => (key.name, settings.value key))

end Settings
end SpiceKit
