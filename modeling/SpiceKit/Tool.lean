import SpiceKit.Number.Binary64
import SpiceKit.Disk

/-!
# External tools

A tool is started with a command line, either captured, with a limit on its time, or attached to the
terminal. What comes of it is an `Outcome`: it finishes with a status and what it wrote to standard
error, it cannot be started, or it does not come to an end in time.

A `Launch` says how a tool was started, so that what an action did can be looked at afterwards;
`Fault.message` words what went wrong with one. That a tool runs at all is no part of the library: a
workplace holds the outcome beforehand, and what is proved holds for each.
-/

set_option autoImplicit false

namespace SpiceKit
namespace Tool

inductive Task where
  | compile
  | check
  | run
  deriving DecidableEq, Repr

def Task.verb : Task → String
  | .compile => "compile"
  | .check => "check"
  | .run => "run"

inductive Mode where
  | captured (limit : Binary64)
  | attached
  deriving DecidableEq, Repr

structure Launch where
  command : List WideText
  mode : Mode
  deriving DecidableEq, Repr

/-- What comes of a started tool. It is given beforehand and does not depend on the command or its
limit: that a launch is refused because the limit is no number, is infinite or is too great for a
clock, or because a NUL stands in the command, is left out. -/
inductive Outcome where
  | finished (status : Int) (errors : List UInt8)
  | refused (refusal : Refusal)
  | endless
  deriving DecidableEq, Repr

structure Product where
  message : String
  file : Option Path := none
  deriving DecidableEq, Repr

inductive Fault where
  | launch (task : Task) (fault : OsFault)
  | overtime (task : Task) (limit : Binary64)
  | status (task : Task) (status : Int) (errors : String)
  | complaint (task : Task) (errors : String)
  | unsaved (path : Path) (fault : OsFault)
  deriving DecidableEq, Repr

def Task.complaint : Task → String
  | .compile => "Compilation error: "
  | .check => "Syntax error: "
  | .run => "Failed to run: "

def Fault.message : Fault → String
  | .launch task fault => "Failed to " ++ task.verb ++ ": " ++ fault.message
  | .overtime task limit =>
    "Failed to " ++ task.verb ++ ": timed out after " ++ limit.toText ++ "s"
  | .status task code errors =>
    "Failed to " ++ task.verb ++ ": " ++
      (if errors = "" then "exit status " ++ toString code else errors)
  | .complaint task errors => task.complaint ++ errors
  | .unsaved path fault => "Failed to save " ++ path.toString ++ ": " ++ fault.message

end Tool
end SpiceKit
