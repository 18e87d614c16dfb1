import SpiceKit.Tool.Chain

/-!
# Actions on a document

Compile, run and check. Each first saves the document. Before compiling or running, redefined
built-ins need consent: a refusal ends the action without a result and without a fault, and the
answer "never ask again" turns the warning off in the settings before the tool is started.

`compile` and `run` go through `withConsent`, while `check` saves by itself and asks nobody.
`restoreWarning` turns the warning on again; it and that answer are all that writes settings. What
was done before a fault stays done, for `Work` carries the workplace on. What a whole session of
such actions comes to is said in `Proofs/Action`.
-/

set_option autoImplicit false

namespace SpiceKit
namespace Action

/-- Whether an action on a document may go on, by `Consent.gate`. Consent that is given for good is
saved before the answer is used, so it is kept also if the tool then fails. -/
def mayProceed (document : Document) (settings : Settings) : Work Bool := do
  let verdict ← Consent.gate Work.ask settings.redefinitionCheck
    (document.source.redefinitions Vocabulary.builtins)
  if verdict = .proceedAndSuppress then
    Work.saveSettings (settings.withRedefinitionCheck false)
  return verdict.proceeds

/-- Saves a document and, with consent, hands it on with the settings as they then are. Both actions
that run foreign code on a source, `compile` and `run`, go through here. -/
def withConsent {α : Type} (document : Document) (act : Settings → Path → Work α) :
    Work (Option α) := do
  Work.saveDocument document
  let settings ← Work.loadSettings
  if ← mayProceed document settings then
    return some (← act (← Work.loadSettings) document.path)
  else return none

def compile (document : Document) : Work (Option Tool.Product) :=
  withConsent document Tool.compile

def run (document : Document) : Work (Option Int) := withConsent document Tool.run

def check (document : Document) : Work Tool.Product := do
  Work.saveDocument document
  Tool.check (← Work.loadSettings) document.path

def restoreWarning : Work Unit := do
  Work.saveSettings ((← Work.loadSettings).withRedefinitionCheck true)

end Action
end SpiceKit
