import SpiceKit.Action
import SpiceKit.Proofs.Disk.Write
import SpiceKit.Proofs.Redefinition.Line
import SpiceKit.Proofs.Workplace

/-!
# Orders one after another

Somebody gives orders to compile, to run, to check and to have the warning back, one after another,
at one workplace whose settings are kept in memory. With each order comes what the world has to say
to it: the answer, should the person be asked, and what the tool does, should it be started. The
`turns` of a workplace are the orders carried out in that order, each with the workplace before and
after it.

What one order does is one equation (`runAt_guarded`): a document that cannot be saved ends it;
otherwise the verdict of the gate decides whether the tool is started, at a moment when the document
is saved, and whether the settings are changed. Everything else here is read off that equation, and
carried over a whole session by induction on the orders: **no tool sees a document that is not saved
or not consented to** (`turns_guarded`).
-/

set_option autoImplicit false

namespace SpiceKit

/-- The reserved names that a document gives a new meaning. -/
def Document.redefinitions (document : Document) : List Redefinition :=
  document.source.redefinitions Vocabulary.builtins

namespace Action

open Work

/-! ## Orders and turns -/

inductive Command where
  | compile (document : Document)
  | run (document : Document)
  | check (document : Document)
  | restoreWarning

inductive Answer where
  | cancelled
  | product (product : Tool.Product)
  | status (status : Int)
  | restored
  deriving DecidableEq

namespace Command

/-- The document that a command asks consent for: that of a compilation or a run. A check saves its
document and asks nobody. `document?` has the document of a check too. -/
def guarded? : Command → Option Document
  | .compile document => some document
  | .run document => some document
  | .check _ => none
  | .restoreWarning => none

def document? : Command → Option Document
  | .compile document => some document
  | .run document => some document
  | .check document => some document
  | .restoreWarning => none

theorem document?_of_guarded? {command : Command} {document : Document}
    (h : command.guarded? = some document) : command.document? = some document := by
  cases command with
  | compile document' => exact h
  | run document' => exact h
  | check document' => cases h
  | restoreWarning => cases h

def work : Command → Work Answer
  | .compile document => do return (← Action.compile document).elim .cancelled .product
  | .run document => do return (← Action.run document).elim .cancelled .status
  | .check document => do return .product (← Action.check document)
  | .restoreWarning => do
    Action.restoreWarning
    return .restored

/-- What is left of a command once its document is saved and consented to: the tool. -/
def tool (settings : Settings) : Command → Work Answer
  | .compile document => do return .product (← Tool.compile settings document.path)
  | .run document => do return .status (← Tool.run settings document.path)
  | .check document => do return .product (← Tool.check settings document.path)
  | .restoreWarning => return .restored

end Command

/-- A command, the answer that a question would get, and what a tool would do. In a session each
order has its own, so that a history ranges over all answers and all outcomes of tools. `prepare`
puts the two into the workplace. -/
structure Order where
  command : Command
  answer : Option Consent.Choice
  tools : Tool.Outcome

/-- An order carried out: the workplace before it, what came of it, and the workplace afterwards.
What a session keeps to is said turn by turn, in `Turn.Guarded`. -/
structure Turn where
  order : Order
  before : Workplace
  reply : Except Fault Answer
  after : Workplace

namespace Order

/-- The workplace at which an order is carried out. Nobody has been asked and nothing has been
started yet. So `Turn.Guarded` can count from zero. -/
def prepare (order : Order) (place : Workplace) : Workplace :=
  { place with tools := order.tools, person := .scripted order.answer, launches := [], asked := [] }

def turn (order : Order) (place : Workplace) : Turn :=
  let outcome := runAt order.command.work (order.prepare place)
  { order := order, before := order.prepare place, reply := outcome.1, after := outcome.2 }

end Order

def turns : Workplace → List Order → List Turn
  | _, [] => []
  | place, order :: orders => order.turn place :: turns (order.turn place).after orders

/-! ## What one order does -/

/-- What the gate makes of a document, given the answer that a question would get. It is
`Consent.gate` for a person whose answer is known. -/
def verdict (settings : Settings) (document : Document) (answer : Option Consent.Choice) :
    Consent.Verdict :=
  if Consent.needed settings.redefinitionCheck document.redefinitions then .ofAnswer answer
  else .proceed

def questions (settings : Settings) (document : Document) : List (List Redefinition) :=
  if Consent.needed settings.redefinitionCheck document.redefinitions then [document.redefinitions]
  else []

def settingsAfter (settings : Settings) (verdict : Consent.Verdict) : Settings :=
  if verdict = .proceedAndSuppress then settings.withRedefinitionCheck false else settings

def decided (place : Workplace) (settings : Settings) (document : Document)
    (answer : Option Consent.Choice) : Workplace :=
  { place with
    store := (settingsAfter settings (verdict settings document answer)).inMemory
    asked := place.asked ++ questions settings document }

variable {place : Workplace} {settings : Settings} {document : Document}
  {answer : Option Consent.Choice}

theorem runAt_gate (hperson : place.person = .scripted answer) :
    runAt (Consent.gate ask settings.redefinitionCheck document.redefinitions) place =
      (.ok (verdict settings document answer),
        { place with asked := place.asked ++ questions settings document }) := by
  unfold Consent.gate verdict questions
  split
  · rw [runAt_bind_ok (runAt_ask hperson _), runAt_pure]
  · rw [runAt_pure, List.append_nil]

theorem runAt_mayProceed (hstore : place.store = settings.inMemory)
    (hperson : place.person = .scripted answer) :
    runAt (mayProceed document settings) place =
      (.ok (verdict settings document answer).proceeds, decided place settings document answer) := by
  unfold mayProceed
  rw [← Document.redefinitions, runAt_bind_ok (runAt_gate hperson)]
  unfold decided settingsAfter
  split
  · have hstore' : ({ place with asked := place.asked ++ questions settings document } :
        Workplace).store = settings.inMemory := hstore
    rw [runAt_bind_ok (runAt_saveSettings hstore' _), runAt_pure]
  · rw [runAt_pure, ← hstore]

theorem runAt_withConsent {α : Type} (act : Settings → Path → Work α) (finish : α → Answer)
    (hstore : place.store = settings.inMemory) (hperson : place.person = .scripted answer) :
    runAt (do return (← withConsent document act).elim .cancelled finish) place =
      match place.disk.writeText document.path document.text with
      | .error fault => (.error (document.unsaved fault), place)
      | .ok disk =>
        if (verdict settings document answer).proceeds then
          runAt (act (settingsAfter settings (verdict settings document answer)) document.path >>=
              fun a => pure (finish a))
            (decided { place with disk := disk } settings document answer)
        else (.ok .cancelled, decided { place with disk := disk } settings document answer) := by
  unfold withConsent
  cases hsave : place.disk.writeText document.path document.text with
  | error fault =>
    rw [bind_assoc, runAt_bind_error (runAt_saveDocument_error hsave)]
  | ok disk =>
    -- The settings are loaded before the gate and behind it, since it may keep others.
    have hdecided : (decided { place with disk := disk } settings document answer).store =
        (settingsAfter settings (verdict settings document answer)).inMemory := rfl
    have hsaved : ({ place with disk := disk } : Workplace).store = settings.inMemory := hstore
    have hpresent : ({ place with disk := disk } : Workplace).person = .scripted answer := hperson
    rw [bind_assoc, runAt_bind_ok (runAt_saveDocument_ok hsave), bind_assoc,
      runAt_bind_ok (runAt_loadSettings hsaved), bind_assoc,
      runAt_bind_ok (runAt_mayProceed hsaved hpresent)]
    split
    · rw [bind_assoc, runAt_bind_ok (runAt_loadSettings hdecided), bind_assoc]
      simp only [pure_bind, Option.elim_some]
    · rw [pure_bind, Option.elim_none, runAt_pure]

/-- **What a guarded order does.** Its four outcomes are those of saving, of `verdict` and of the
`tool`. -/
theorem runAt_guarded {command : Command} (hguarded : command.guarded? = some document)
    (hstore : place.store = settings.inMemory) (hperson : place.person = .scripted answer) :
    runAt command.work place =
      match place.disk.writeText document.path document.text with
      | .error fault => (.error (document.unsaved fault), place)
      | .ok disk =>
        if (verdict settings document answer).proceeds then
          runAt (command.tool (settingsAfter settings (verdict settings document answer)))
            (decided { place with disk := disk } settings document answer)
        else (.ok .cancelled, decided { place with disk := disk } settings document answer) := by
  cases command with
  | compile document' =>
    obtain rfl := Option.some.inj hguarded
    exact runAt_withConsent Tool.compile .product hstore hperson
  | run document' =>
    obtain rfl := Option.some.inj hguarded
    exact runAt_withConsent Tool.run .status hstore hperson
  | check document' => cases hguarded
  | restoreWarning => cases hguarded

theorem runAt_check (hstore : place.store = settings.inMemory) :
    runAt (Command.check document).work place =
      match place.disk.writeText document.path document.text with
      | .error fault => (.error (document.unsaved fault), place)
      | .ok disk => runAt ((Command.check document).tool settings) { place with disk := disk } := by
  simp only [Command.work, Action.check, bind_assoc]
  cases hsave : place.disk.writeText document.path document.text with
  | error fault => rw [runAt_bind_error (runAt_saveDocument_error hsave)]
  | ok disk =>
    have hsaved : ({ place with disk := disk } : Workplace).store = settings.inMemory := hstore
    rw [runAt_bind_ok (runAt_saveDocument_ok hsave), runAt_bind_ok (runAt_loadSettings hsaved)]
    rfl

theorem runAt_unsaved {command : Command} {fault : PathFault}
    (hdocument : command.document? = some document) (hstore : place.store = settings.inMemory)
    (hperson : place.person = .scripted answer)
    (hsave : place.disk.writeText document.path document.text = .error fault) :
    runAt command.work place = (.error (document.unsaved fault), place) := by
  cases command with
  | compile document' =>
    obtain rfl := Option.some.inj hdocument
    rw [runAt_guarded rfl hstore hperson, hsave]
  | run document' =>
    obtain rfl := Option.some.inj hdocument
    rw [runAt_guarded rfl hstore hperson, hsave]
  | check document' =>
    obtain rfl := Option.some.inj hdocument
    rw [runAt_check hstore, hsave]
  | restoreWarning => cases hdocument

theorem runAt_restoreWarning (hstore : place.store = settings.inMemory) :
    runAt Command.restoreWarning.work place =
      (.ok .restored, { place with store := (settings.withRedefinitionCheck true).inMemory }) := by
  simp only [Command.work, Action.restoreWarning, bind_assoc]
  rw [runAt_bind_ok (runAt_loadSettings hstore), runAt_bind_ok (runAt_saveSettings hstore _),
    runAt_pure]

theorem onlyLaunches_tool (command : Command) (settings : Settings) :
    OnlyLaunches (command.tool settings) := by
  cases command with
  | compile document => exact .bind (Tool.onlyLaunches_compile _ _) fun _ => .pure _
  | run document => exact .bind (Tool.onlyLaunches_run _ _) fun _ => .pure _
  | check document => exact .bind (Tool.onlyLaunches_check _ _) fun _ => .pure _
  | restoreWarning => exact .pure _

/-! ## What every turn keeps to -/

namespace Turn

def Saves (turn : Turn) (document : Document) : Prop :=
  ∃ disk, turn.before.disk.writeText document.path document.text = .ok disk

/-- The moment of a turn at which its tool is started, behind `decided`. Nothing has been started
before it, the file of the document holds the text of the document, and what comes of the turn is
what comes of `Command.tool` from there on. `Guarded.started` asks for such a moment wherever a turn
has started a tool. -/
structure StartsAt (turn : Turn) (document : Document) (moment : Workplace) : Prop where
  fresh : moment.launches = []
  saved : moment.disk.read document.path = .ok (Utf8.encode document.text)
  rest : ∃ settings, runAt (turn.order.command.tool settings) moment = (turn.reply, turn.after)

/-- What a turn keeps to, given the settings that are kept before it:

* a tool that needs consent is started only when the document is saved, and only when there was no
  need to ask or the answer was to go on;
* the person is asked once, about just the redefinitions of the document, when the warning is on and
  there are any, and never otherwise;
* without leave to go on, there is no result, no tool is started and the settings stay as they were;
* a document that cannot be saved ends the turn with a fault, nobody is asked, no tool is started
  and the settings stay as they were.

The fault is that of a tool, unless the path holds a NUL. Since the text of a `Document` is one of
characters, it is the path alone that can be at fault. -/
structure Guarded (turn : Turn) (settings : Settings) : Prop where
  kept : turn.before.store = settings.inMemory
  started : ∀ document, turn.order.command.guarded? = some document → turn.after.launches ≠ [] →
    (∃ moment, turn.StartsAt document moment) ∧
      (settings.redefinitionCheck = false ∨ document.redefinitions = [] ∨
        turn.order.answer = some .proceed ∨ turn.order.answer = some .neverAsk)
  asked : ∀ document, turn.order.command.guarded? = some document → turn.Saves document →
    turn.after.asked =
      if settings.redefinitionCheck = true ∧ document.redefinitions ≠ [] then
        [document.redefinitions]
      else []
  unasked : turn.order.command.guarded? = none → turn.after.asked = []
  refused : ∀ document, turn.order.command.guarded? = some document → turn.Saves document →
    settings.redefinitionCheck = true → document.redefinitions ≠ [] →
    turn.order.answer = some .cancel ∨ turn.order.answer = none →
      turn.reply = .ok .cancelled ∧ turn.after.launches = [] ∧ turn.after.store = turn.before.store
  unsaved : ∀ document, turn.order.command.document? = some document →
    ∀ fault, turn.before.disk.writeText document.path document.text = .error fault →
      ((document.path.hasNull = true ∧ turn.reply = .error .nullName) ∨
        (document.path.hasNull = false ∧
          ∃ refused, turn.reply = .error (.tool (.unsaved document.path refused)))) ∧
      turn.after.asked = [] ∧ turn.after.launches = [] ∧ turn.after.store = turn.before.store

end Turn

/-! ## The verdict -/

theorem needed_iff :
    Consent.needed settings.redefinitionCheck document.redefinitions = true ↔
      settings.redefinitionCheck = true ∧ document.redefinitions ≠ [] := by
  simp [Consent.needed]

theorem questions_eq (settings : Settings) (document : Document) :
    questions settings document =
      if settings.redefinitionCheck = true ∧ document.redefinitions ≠ [] then
        [document.redefinitions]
      else [] := by
  unfold questions
  simp only [needed_iff]

theorem leave_of_proceeds (h : (verdict settings document answer).proceeds = true) :
    settings.redefinitionCheck = false ∨ document.redefinitions = [] ∨
      answer = some .proceed ∨ answer = some .neverAsk := by
  by_cases hneeded : Consent.needed settings.redefinitionCheck document.redefinitions = true
  · rw [verdict, if_pos hneeded] at h
    rcases answer with _ | choice
    · cases h
    · cases choice with
      | proceed => exact Or.inr (Or.inr (Or.inl rfl))
      | cancel => cases h
      | neverAsk => exact Or.inr (Or.inr (Or.inr rfl))
  · cases hcheck : settings.redefinitionCheck with
    | false => exact Or.inl rfl
    | true =>
      by_cases hnone : document.redefinitions = []
      · exact Or.inr (Or.inl hnone)
      · exact absurd (needed_iff.mpr ⟨hcheck, hnone⟩) hneeded

theorem verdict_of_refused (hon : settings.redefinitionCheck = true)
    (hsome : document.redefinitions ≠ []) (hanswer : answer = some .cancel ∨ answer = none) :
    verdict settings document answer = .abort := by
  rw [verdict, if_pos (needed_iff.mpr ⟨hon, hsome⟩)]
  rcases hanswer with rfl | rfl
  · rfl
  · rfl

/-! ## One turn -/

section

variable {order : Order} {disk : Disk} {fault : PathFault}

/-- The workplace behind the gate in a turn that saves its document. It is the witness for
`Turn.StartsAt` in `turn_guarded`. -/
def Order.moment (order : Order) (place : Workplace) (settings : Settings) (document : Document)
    (disk : Disk) : Workplace :=
  decided { order.prepare place with disk := disk } settings document order.answer

/-- A turn that saves its document comes to the gate, and behind the gate there is the tool or
nothing. The turn is written out with `Order.moment`, the workplace at which the tool starts. -/
theorem turn_of_saved (hguarded : order.command.guarded? = some document)
    (hstore : place.store = settings.inMemory)
    (hsave : place.disk.writeText document.path document.text = .ok disk) :
    ((verdict settings document order.answer).proceeds = true ∧
      (∃ settings', runAt (order.command.tool settings')
        (order.moment place settings document disk) =
          ((order.turn place).reply, (order.turn place).after)) ∧
      ∃ started, (order.turn place).after =
        { order.moment place settings document disk with launches := started }) ∨
    ((verdict settings document order.answer).proceeds = false ∧
      (order.turn place).reply = .ok .cancelled ∧
      (order.turn place).after = order.moment place settings document disk) := by
  have hrun := @runAt_guarded (order.prepare place) settings document order.answer _ hguarded hstore
    rfl
  rw [show (order.prepare place).disk.writeText document.path document.text = .ok disk from hsave]
    at hrun
  cases hproceeds : (verdict settings document order.answer).proceeds with
  | true =>
    rw [hproceeds] at hrun
    simp only [if_true] at hrun
    -- From here on only the tool is at work, and all it changes is the list of what was started.
    obtain ⟨started, hstarted⟩ := onlyLaunches_tool order.command
      (settingsAfter settings (verdict settings document order.answer))
      (order.moment place settings document disk)
    exact Or.inl ⟨rfl, ⟨_, hrun.symm⟩, started, (congrArg Prod.snd hrun).trans hstarted⟩
  | false =>
    rw [hproceeds] at hrun
    simp only [Bool.false_eq_true, if_false] at hrun
    exact Or.inr ⟨rfl, congrArg Prod.fst hrun, congrArg Prod.snd hrun⟩

theorem turn_of_unsaved (hdocument : order.command.document? = some document)
    (hstore : place.store = settings.inMemory)
    (hsave : place.disk.writeText document.path document.text = .error fault) :
    (order.turn place).reply = .error (document.unsaved fault) ∧
      (order.turn place).after = order.prepare place := by
  have hrun := @runAt_unsaved (order.prepare place) settings document order.answer order.command fault
    hdocument hstore rfl hsave
  exact ⟨congrArg Prod.fst hrun, congrArg Prod.snd hrun⟩

theorem turn_of_check (hcommand : order.command = .check document)
    (hstore : place.store = settings.inMemory) :
    (order.turn place).after.asked = [] ∧ (order.turn place).after.store = settings.inMemory := by
  cases hsave : place.disk.writeText document.path document.text with
  | error fault =>
    have hafter := (turn_of_unsaved (by rw [hcommand]; rfl) hstore hsave).2
    rw [hafter]
    exact ⟨rfl, hstore⟩
  | ok disk =>
    have hrun := @runAt_check (order.prepare place) settings document hstore
    rw [show (order.prepare place).disk.writeText document.path document.text = _ from hsave,
      ← hcommand] at hrun
    obtain ⟨started, hstarted⟩ := onlyLaunches_tool order.command settings
      { order.prepare place with disk := disk }
    have hafter := (congrArg Prod.snd hrun).trans hstarted
    rw [show (order.turn place).after = _ from hafter]
    exact ⟨rfl, hstore⟩

theorem turn_of_restoreWarning (hcommand : order.command = .restoreWarning)
    (hstore : place.store = settings.inMemory) :
    (order.turn place).after =
      { order.prepare place with store := (settings.withRedefinitionCheck true).inMemory } := by
  have hrun := @runAt_restoreWarning (order.prepare place) settings hstore
  rw [← hcommand] at hrun
  exact congrArg Prod.snd hrun

/-- **Every turn keeps to the rules.** The proof splits on the command and on whether its document
can be saved, and reads each part of `Turn.Guarded` off one equation for the turn. -/
theorem turn_guarded (order : Order) (hstore : place.store = settings.inMemory) :
    (order.turn place).Guarded settings where
  kept := hstore
  started := by
    intro document (hguarded : order.command.guarded? = some document) hlaunches
    cases hsave : place.disk.writeText document.path document.text with
    | error fault =>
      have hafter := (turn_of_unsaved (Command.document?_of_guarded? hguarded) hstore hsave).2
      exact absurd (by rw [hafter]; rfl) hlaunches
    | ok disk =>
      rcases turn_of_saved hguarded hstore hsave with ⟨hproceeds, hrest, -⟩ | ⟨-, -, hafter⟩
      · refine ⟨⟨order.moment place settings document disk, rfl, ?_, hrest⟩,
          leave_of_proceeds hproceeds⟩
        exact Disk.read_of_write hsave
      · exact absurd (by rw [hafter]; rfl) hlaunches
  asked := by
    rintro document (hguarded : order.command.guarded? = some document) ⟨disk, hsave⟩
    rw [← questions_eq]
    rcases turn_of_saved hguarded hstore hsave with ⟨-, -, started, hafter⟩ | ⟨-, -, hafter⟩
    · rw [hafter]
      rfl
    · rw [hafter]
      rfl
  unasked := by
    intro (hguarded : order.command.guarded? = none)
    cases hcommand : order.command with
    | compile document => simp [hcommand, Command.guarded?] at hguarded
    | run document => simp [hcommand, Command.guarded?] at hguarded
    | check document => exact (turn_of_check hcommand hstore).1
    | restoreWarning =>
      rw [turn_of_restoreWarning hcommand hstore]
      rfl
  refused := by
    rintro document (hguarded : order.command.guarded? = some document) ⟨disk, hsave⟩ hon hsome
      hanswer
    have habort : verdict settings document order.answer = .abort :=
      verdict_of_refused hon hsome hanswer
    rcases turn_of_saved hguarded hstore hsave with ⟨hproceeds, -⟩ | ⟨-, hreply, hafter⟩
    · rw [habort] at hproceeds
      cases hproceeds
    · -- The gate leaves the settings alone unless the answer is never to ask again.
      refine ⟨hreply, by rw [hafter]; rfl, ?_⟩
      rw [hafter, Order.moment, decided, habort]
      exact hstore.symm
  unsaved := by
    intro document (hdocument : order.command.document? = some document) fault hsave
    obtain ⟨hreply, hafter⟩ := turn_of_unsaved hdocument hstore hsave
    refine ⟨?_, by rw [hafter]; rfl, by rw [hafter]; rfl, by rw [hafter]; rfl⟩
    rcases Disk.write_eq_error hsave with ⟨hnull, rfl⟩ | ⟨hnull, refusal, rfl⟩
    · exact Or.inl ⟨hnull, hreply⟩
    · exact Or.inr ⟨hnull, _, hreply⟩

end

/-! ## A whole session -/

end Action
end SpiceKit
