import SpiceKit.Action
import SpiceKit.Assist
import SpiceKit.Cli.Invocation
import SpiceKit.Screen.Layout
import SpiceKit.Workspace

/-!
# Running a command

A command ends with a status: 0 for success, 1 for a failed or cancelled action, 2 for a command
line, a settings file or a path that cannot be used; `run` ends with the status of the program.
Faults of settings and tools are reported on standard error and end in a status. All other faults
leave the command as faults.

What pattern files mean and what becomes of a ruled title are left to `Conventions`. `executeBy`
runs a command line under any of them, and the results on command lines (`execute_frame`,
`compiler_not_kept`, `execute_ends`) hold of all; `standard` are those of the program.
-/

set_option autoImplicit false

namespace SpiceKit
namespace Cli

/-- What a command line leaves to others: the dialect in which pattern files are read, and what
reaches the screen of the title of a ruled line, which is taken for markup. What a command does
otherwise is the same under all conventions, and is proved for all of them. -/
structure Conventions (ρ : Type) where
  patterns : Ignore.Dialect ρ
  title : List Char → Except Markup.Fault (List Char)

/-- The conventions of the program. -/
def standard : Conventions (List Ignore.Pattern) := ⟨Ignore.standard, Screen.title⟩

variable {ρ : Type}

def isSettingsFault : Fault → Bool
  | .settingsUnreadable _ _ => true
  | .settingsMalformed _ _ _ => true
  | .settingsNoObject _ => true
  | .settingsType _ _ _ => true
  | .settingsUnwritable _ _ => true
  | _ => false

/-- Whether a fault is one of settings or tools. These are the faults that a command which starts a
tool reports; all others leave it. -/
def isActionFault : Fault → Bool
  | .tool _ => true
  | fault => isSettingsFault fault

/-- Does something, and turns some of its faults into a line on standard error and a status. What
was done before the fault stays done, since `Work` hands the workplace on with it. -/
def reporting (reported : Fault → Bool) (status : Int) (act : Work Int) : Work Int :=
  tryCatch act fun fault => do
    if reported fault then
      Work.complain fault.message
      return status
    else throw fault

def giveUp (line : String) (status : Int) : Work Int := do
  Work.complain line
  return status

def orFault {α : Type} : Except OsFault α → Work α
  | .ok found => return found
  | .error fault => throw (.system fault)

/-- Does something with the document of a file argument. That there is no file, or that it cannot be
read, ends the command with status 2; a path too long to be looked up leaves it as a fault. -/
def withDocument (file : String) (act : Document → Work Int) : Work Int := do
  let path := Path.ofString file
  let disk := (← get).disk
  if ← orFault (disk.hasFile path) then
    -- The text is read before anything else happens, so a command works on what it saw here.
    match Document.load disk path with
    | .ok document => act document
    | .error _ => giveUp ("Failed to read file: " ++ path.toString) 2
  else giveUp ("File does not exist: " ++ path.toString) 2

def placeText (position : Position) : String :=
  toString (position.line + 1) ++ ":" ++ toString (position.column + 1)

/-! ## Outline -/

def outlineRow (source : Source) (declaration : Declaration) : List String :=
  [declaration.name, declaration.kind.word, placeText (source.positionAt declaration.start),
    placeText (source.positionAt declaration.stop)]

def outlineJson (source : Source) (declaration : Declaration) : Json.Value :=
  .object [
    ("end", .text (placeText (source.positionAt declaration.stop))),
    ("kind", .text declaration.kind.word),
    ("name", .text declaration.name),
    ("start", .text (placeText (source.positionAt declaration.start)))]

def outline (source : Source) : Format → Display
  | .table =>
    .table [{ title := "name" }, { title := "kind" }, { title := "start" }, { title := "end" }]
      (source.declarations.map (outlineRow source))
  | .json => .line (String.ofList (Json.write (.object [
      ("symbols", .array (source.declarations.map (outlineJson source)))])))

/-! ## Lint -/

def findingRow (finding : Finding) : List String :=
  [toString (finding.line + 1), toString (finding.start + 1), finding.rule.code,
    finding.rule.message]

def redefinitionRow (redefinition : Redefinition) : List String :=
  [toString redefinition.line, "", "builtin-override",
    redefinition.name ++ " (" ++ redefinition.form.label ++ ")"]

def reportTable (report : Workspace.Report) : Display :=
  .table [{ title := "line", side := .right }, { title := "column", side := .right },
      { title := "kind" }, { title := "detail" }]
    (report.analysis.findings.map findingRow ++ report.analysis.redefinitions.map redefinitionRow)

/-- Shows a report as a titled table. The path in the title is taken for markup. -/
def showReport (conventions : Conventions ρ) (report : Workspace.Report) : Work Unit :=
  match conventions.title report.path with
  | .error fault => throw (.markup fault)
  | .ok title => do
    Work.display (.rule (String.ofList title))
    Work.display (reportTable report)

def findingJson (finding : Finding) : Json.Value :=
  .object [
    ("code", .text finding.rule.code),
    ("column", .int (finding.start + 1)),
    ("end_column", .int (finding.stop + 1)),
    ("line", .int (finding.line + 1)),
    ("message", .text finding.rule.message),
    ("severity", .text finding.rule.severity.word)]

def redefinitionJson (redefinition : Redefinition) : Json.Value :=
  .object [
    ("kind", .text redefinition.form.word),
    ("line", .int redefinition.line),
    ("name", .text redefinition.name)]

def reportJson (report : Workspace.Report) : Json.Value :=
  .object [
    ("diagnostics", .array (report.analysis.findings.map findingJson)),
    ("file_path", .text (String.ofList report.path)),
    ("overrides", .array (report.analysis.redefinitions.map redefinitionJson))]

def failureJson (failure : Workspace.Failure) : Json.Value :=
  .object [
    ("file_path", .text (String.ofList failure.path)),
    ("message", .text failure.reason.message)]

def surveyJson (reports : List Workspace.Report) (failures : List Workspace.Failure) :
    Json.Value :=
  .object [
    ("errors", .array (failures.map failureJson)),
    ("files", .array (reports.map reportJson))]

/-- Shows the reports and failures of a survey. A table is for the reports alone. -/
def showSurvey (conventions : Conventions ρ) (reports : List Workspace.Report)
    (failures : List Workspace.Failure) : Format → Work Unit
  | .table => reports.forM (showReport conventions)
  | .json => Work.display (.line (String.ofList (Json.write (surveyJson reports failures))))

def failureLine (failure : Workspace.Failure) : String :=
  "scan_error: " ++ String.ofList failure.path ++ ": " ++ failure.reason.message

/-- Shows the findings of all sources below a path. A pattern file that cannot be read ends it with
status 2, and a line of one that is no pattern leaves it as a fault; a source that cannot be read is
reported and passed over. -/
def lint (conventions : Conventions ρ) (path : Path) (format : Format) : Work Int := do
  let disk := (← get).disk
  if ← orFault (disk.has path) then
    match Workspace.surveyBy conventions.patterns disk path with
    | .error (.unreadable reason) =>
      giveUp ("Failed to read .gitignore files: " ++ reason.message) 2
    | .error fault => throw fault
    | .ok (reports, failures) =>
      failures.forM fun failure => Work.complain (failureLine failure)
      showSurvey conventions reports failures format
      return 0
  else giveUp ("Path does not exist: " ++ path.toString) 2

/-! ## Commands -/

def definition (line column : Int) (document : Document) : Work Int :=
  match Assist.definition document.source ⟨line - 1, column - 1⟩ with
  | none => giveUp "No definition found" 1
  | some target => do
    Work.display (.line (document.path.toString ++ ":" ++ placeText target.position))
    return 0

def answeredBy (answer : Option Consent.Choice) : Work Unit :=
  modify fun place => { place with person := .console answer }

def compile (document : Document) : Work Int := do
  match ← Action.compile document with
  | none => giveUp "Compilation cancelled" 1
  | some product =>
    Work.display (.notice product.message)
    return 0

def run (document : Document) : Work Int := do
  match ← Action.run document with
  | none => giveUp "Run cancelled" 1
  | some status => return status

def check (document : Document) : Work Int := do
  let product ← Action.check document
  Work.display (.notice product.message)
  return 0

def restoreWarning : Work Int := do
  Action.restoreWarning
  Work.display (.notice "Built-in override warnings have been re-enabled.")
  return 0

/-- Does a command, at a workplace whose store is that of the invocation. Of the conventions only
`lint` makes use. -/
def perform (conventions : Conventions ρ) : Command → Work Int
  | .outline file format => withDocument file fun document => do
    Work.display (outline document.source format)
    return 0
  | .lint path format => lint conventions (Path.ofString path) format
  | .definition file line column => withDocument file (definition line column)
  | .compile file answer => withDocument file fun document => do
    answeredBy answer
    reporting isActionFault 1 (compile document)
  | .run file answer => withDocument file fun document => do
    answeredBy answer
    reporting isActionFault 1 (run document)
  | .check file => withDocument file fun document => reporting isActionFault 1 (check document)
  | .restoreWarning => reporting isSettingsFault 1 restoreWarning

/-- The settings store of an invocation: the file that is named, or the usual one, with the compiler
that is named over it. An empty compiler is none. -/
def storeOf (usual : Path) (invocation : Invocation) : Settings.Store :=
  { keeper := .file ((invocation.settings.map Path.ofString).getD usual)
    compiler := invocation.compiler.filter (· ≠ "") }

/-- Runs an invocation. Its settings must be in order before anything else is done. -/
def invoke (conventions : Conventions ρ) (usual : Path) (invocation : Invocation) : Work Int := do
  modify fun place => { place with store := storeOf usual invocation }
  let place ← get
  match place.store.load place.disk with
  -- The settings are loaded only to see whether they can be; a command loads its own.
  | .error fault => if isSettingsFault fault then giveUp fault.message 2 else throw fault
  | .ok _ => perform conventions invocation.command

/-- Runs a command line under some conventions; `usual` is the settings file when none is named. -/
def executeBy (conventions : Conventions ρ) (usual : Path) (arguments : List String) : Work Int :=
  match Invocation.read? arguments with
  | none => return 2
  | some invocation => invoke conventions usual invocation

/-- Runs a command line as the program does. -/
def execute (usual : Path) (arguments : List String) : Work Int :=
  executeBy standard usual arguments

end Cli
end SpiceKit
