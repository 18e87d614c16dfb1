import SpiceKit.Consent
import SpiceKit.Document
import SpiceKit.Screen.Table
import SpiceKit.Settings.Store

/-!
# The workplace of an action

An action reads and writes files, keeps settings, starts tools, and talks to a person. All of that
is one value here, the `Workplace`, and an action is a function from it to a result and the
workplace afterwards. What was done before a fault stays done: the state comes back with the fault.

A tool does what the workplace says tools do; that it was started, and how, is noted. A person is
either a script with one answer, or sits at a console.
-/

set_option autoImplicit false

namespace SpiceKit

inductive Display where
  /-- A text and a line end. -/
  | line (text : String)
  /-- A message and a line end; names, numbers and brackets in it stand out. -/
  | notice (text : String)
  /-- A text without a line end, behind which an answer is typed. -/
  | question (text : String)
  /-- A ruled line with a title. -/
  | rule (title : String)
  /-- A table: its columns and its rows. -/
  | table (columns : List Screen.Column) (rows : List (List String))
  deriving DecidableEq, Repr

/-- A console: the lines still to be typed, what was shown so far, and the lines written to standard
error. The lines of the input are taken as decoded already, so reading one can meet the end of the
input and nothing else. -/
structure Console where
  input : List (List Char) := []
  shown : List Display := []
  complaints : List String := []
  deriving DecidableEq, Repr

inductive Person where
  /-- Somebody whose answer is known, or who does not answer. -/
  | scripted (answer : Option Consent.Choice)
  /-- Somebody at the console, who may have answered in advance. -/
  | console (answer : Option Consent.Choice)
  deriving DecidableEq, Repr

/-- What an action reads and changes: disk and settings, tools and person, the console, and two
notes of what has happened, the tools launched and the redefinitions asked about. -/
structure Workplace where
  disk : Disk
  store : Settings.Store
  tools : Tool.Outcome := .finished 0 []
  person : Person := .scripted none
  console : Console := {}
  launches : List Tool.Launch := []
  asked : List (List Redefinition) := []

/-- An action: it may fail, and what it changed stays changed. `runAt` runs one at a workplace, and
`runAt_bind` takes it apart at each of its steps. -/
abbrev Work (α : Type) : Type := ExceptT Fault (StateM Workplace) α

namespace Console

/-- The lines of typed text. What is typed behind the last line end is a line if there is anything,
unlike in a document, where the text behind the last line end is always one. -/
def linesOf (typed : List Char) : List (List Char) :=
  let lines := Text.lines typed
  if lines.getLast? = some [] then lines.dropLast else lines

def question : String := "continue / cancel / never [continue/cancel/never] (cancel): "

def reminder : String := "Please select one of the available options"

/-- The choice that a typed line makes. An empty line takes the default, which is to cancel, but a
line of blanks makes no choice. -/
def choiceOf? (typed : List Char) : Option Consent.Choice :=
  if typed = [] then some .cancel
  else match String.ofList (Text.trim typed) with
    | "continue" => some .proceed
    | "cancel" => some .cancel
    | "never" => some .neverAsk
    | _ => none

/-- Asks until a typed line makes a choice. What is shown meanwhile, the choice, which is missing
when the input ends first, and the lines not yet read. The recursion is on the lines typed, so a
dialogue ends with the input at the latest. -/
def dialogue : List (List Char) → List Display × Option Consent.Choice × List (List Char)
  | [] => ([.question question], none, [])
  | typed :: input =>
    match choiceOf? typed with
    | some choice => ([.question question], some choice, input)
    | none =>
      let (shown, choice, rest) := dialogue input
      (.question question :: .line reminder :: shown, choice, rest)

def ask (console : Console) : Option Consent.Choice × Console :=
  let (shown, choice, rest) := dialogue console.input
  (choice, { console with input := rest, shown := console.shown ++ shown })

def add (console : Console) (display : Display) : Console :=
  { console with shown := console.shown ++ [display] }

def complain (console : Console) (line : String) : Console :=
  { console with complaints := console.complaints ++ [line] }

end Console

namespace Work

def loadSettings : Work Settings := do
  let place ← get
  match place.store.load place.disk with
  | .ok settings => return settings
  | .error fault => throw fault

def saveSettings (settings : Settings) : Work Unit := do
  let place ← get
  let (disk, store, fault) := place.store.save place.disk settings
  set { place with disk := disk, store := store }
  match fault with
  | none => return ()
  | some fault => throw fault

def saveDocument (document : Document) : Work Unit := do
  let place ← get
  match place.disk.writeText document.path document.text with
  | .ok disk => set { place with disk := disk }
  | .error (.system fault) => throw (.tool (.unsaved document.path fault))
  | .error .nullName => throw .nullName
  | .error .deep => throw .deepPath

/-- Starts a tool and notes that it was started. What comes of it is the `Tool.Outcome` of the
workplace, whatever is launched and within whatever limit. -/
def launch (launched : Tool.Launch) : Work Tool.Outcome := do
  modify fun place => { place with launches := place.launches ++ [launched] }
  return (← get).tools

def display (shown : Display) : Work Unit :=
  modify fun place => { place with console := place.console.add shown }

def complain (line : String) : Work Unit :=
  modify fun place => { place with console := place.console.complain line }

/-- Shows the warning at the console and reads the answer, unless it was given in advance. That the
input ends is a fault here, whereas a script without an answer answers with none. -/
def askAtConsole (redefinitions : List Redefinition) (answer : Option Consent.Choice) :
    Work (Option Consent.Choice) := do
  display (.line (Consent.warning redefinitions))
  match answer with
  | some choice => return some choice
  | none =>
    let place ← get
    let (choice, console) := place.console.ask
    set { place with console := console }
    match choice with
    | some choice => return some choice
    | none => throw .endOfInput

def ask (redefinitions : List Redefinition) : Work (Option Consent.Choice) := do
  modify fun place => { place with asked := place.asked ++ [redefinitions] }
  match (← get).person with
  | .scripted answer => return answer
  | .console answer => askAtConsole redefinitions answer

end Work
end SpiceKit
