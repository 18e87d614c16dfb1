import SpiceKit.Redefinition

/-!
# Consent to run code that redefines built-ins

Before a program that redefines built-ins is compiled or run, somebody is asked. `gate` decides
*whether* to ask, asks at most once, and turns the answer into a verdict. How the question reaches
a person is none of its business: the asking is an action of any monad, so that a test can script
it, a console can hold a dialogue, and a proof can count it.

No answer at all counts as a refusal.
-/

set_option autoImplicit false

namespace SpiceKit
namespace Consent

inductive Choice where
  | proceed
  | cancel
  | neverAsk
  deriving DecidableEq, Repr

/-- What is to happen next: go on, go on and be asked no more, or stop. `gate` comes to one of these
for every answer, and a missing answer stops. -/
inductive Verdict where
  | proceed
  | proceedAndSuppress
  | abort
  deriving DecidableEq, Repr

namespace Verdict

def word : Verdict → String
  | .proceed => "proceed"
  | .proceedAndSuppress => "proceed_and_suppress"
  | .abort => "abort"

def proceeds : Verdict → Bool
  | .abort => false
  | _ => true

def ofAnswer : Option Choice → Verdict
  | some .proceed => .proceed
  | some .neverAsk => .proceedAndSuppress
  | some .cancel => .abort
  | none => .abort

end Verdict

def bullet (redefinition : Redefinition) : String :=
  "  • " ++ redefinition.name ++ " (line " ++ toString redefinition.line ++ ") - " ++
    redefinition.form.label

def warning (redefinitions : List Redefinition) : String :=
  "Built-in Function Overrides Detected\n\n" ++
  "The following built-in functions are being overridden in your code:\n\n" ++
  "\n".intercalate (redefinitions.map bullet) ++ "\n\n" ++
  "Overriding built-in functions can lead to unexpected behavior and may break " ++
  "standard functionality.\n\n" ++
  "Found " ++ toString redefinitions.length ++ " built-in override" ++
  (if redefinitions.length > 1 then "s" else "") ++ " in your code. " ++
  "Would you like to continue anyway?"

/-- Whether the question has to be asked: the check is on and there is something to warn of. -/
def needed (checking : Bool) (redefinitions : List Redefinition) : Bool :=
  checking && !redefinitions.isEmpty

/-- Asks if it has to (`needed`), once, and answers with the verdict. How a question is asked is a
parameter, so the gate serves a script as well as a console. -/
def gate {m : Type → Type} [Monad m] (ask : List Redefinition → m (Option Choice))
    (checking : Bool) (redefinitions : List Redefinition) : m Verdict :=
  if needed checking redefinitions then do
    let answer ← ask redefinitions
    return Verdict.ofAnswer answer
  else return .proceed

end Consent
end SpiceKit
