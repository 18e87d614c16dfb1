import SpiceKit.Server

/-!
# No server is left behind

A session is used in any order, its server may end by itself at any moment, and scopes may stand in
scopes. `Meets setup steps history met` says that the state `met` is met while steps are done from
`history`: before a step, behind the last one, or inside a scope. **In every state that is met, each
server that was launched and is not held has ended** (`Server.owned_along`), a start launches a
server exactly if none is held, and a scope that was entered is left with nothing held, whatever was
done in it.

A scope goes on after a step in it that fails. Where a failure ends the scope, that is the scope
with the steps up to the failure, which is among all those spoken of here.
-/

set_option autoImplicit false

namespace SpiceKit
namespace Server

variable {setup : Setup} {history met : History} {steps : List Step}

namespace History

/-! ## What starting and stopping do -/

def launched (setup : Setup) (history : History) : History :=
  { history.note [.spawn setup.command] with
    servers := history.servers ++ [{ script := history.nextScript setup }]
    held := some history.servers.length }

def stopped (setup : Setup) (index : Nat) (server : Process) (history : History) : History :=
  ({ history with held := none }.note (.closeInput :: .closeOutput :: (shutdown setup server).1)).update
    index fun server' => { server' with status := some (shutdown setup server).2 }

/-- **A start launches a server exactly if none is held.** Where the script refuses, the attempt
stays in the log. -/
theorem start_cases (setup : Setup) (history : History) :
    (history.held ≠ none ∧ history.start setup = (.error .alreadyStarted, history)) ∨
    (history.held = none ∧ ∃ refusal, (history.nextScript setup).refusal = some refusal ∧
      history.start setup =
        (.error (.launch ⟨refusal, setup.command.headD ""⟩), history.note [.spawn setup.command])) ∨
    (history.held = none ∧ (history.nextScript setup).refusal = none ∧
      history.start setup = (.ok (), history.launched setup)) := by
  cases hheld : history.held with
  | some index => exact Or.inl ⟨nofun, by simp [start, hheld]⟩
  | none =>
    refine Or.inr ?_
    cases hrefusal : (history.nextScript setup).refusal with
    | some refusal => exact Or.inl ⟨rfl, refusal, rfl, by simp [start, hheld, hrefusal]⟩
    | none => exact Or.inr ⟨rfl, rfl, by simp [start, hheld, hrefusal, launched, note]⟩

theorem stop_of_none (h : history.held = none) : history.stop setup = (none, history) := by
  simp [stop, h]

theorem stop_of_held {index : Nat} {server : Process} (hheld : history.held = some index)
    (hserver : history.servers[index]? = some server) :
    history.stop setup = (some (shutdown setup server).2, history.stopped setup index server) := by
  simp [stop, hheld, current?, hserver, stopped]

/-! ## Sessions in order -/

/-- A session in order: if it holds a server then the one launched last, and all others have ended.
It holds of the empty session (`owned_nil`) and is kept by whatever is done or happens, so that it
is an `Invariant`. -/
structure Owned (history : History) : Prop where
  last : ∀ index, history.held = some index → index + 1 = history.servers.length
  ended : ∀ index server, history.servers[index]? = some server → history.held ≠ some index →
    server.status ≠ none

theorem owned_nil : Owned {} := ⟨nofun, nofun⟩

theorem Owned.exists_server (h : history.Owned) {index : Nat} (hheld : history.held = some index) :
    ∃ server, history.servers[index]? = some server := by
  have hlast := h.last index hheld
  have hlt : index < history.servers.length := by omega
  exact ⟨_, List.getElem?_eq_getElem hlt⟩

theorem Owned.update (h : history.Owned) (index : Nat) {change : Process → Process}
    (hchange : ∀ server, server.status ≠ none → (change server).status ≠ none) :
    (history.update index change).Owned := by
  constructor
  · intro held hheld
    rw [History.update, List.length_modify]
    exact h.last held hheld
  · intro index' server hserver hheld
    rw [History.update, List.getElem?_modify] at hserver
    obtain ⟨before, hbefore, rfl⟩ := Option.map_eq_some_iff.mp hserver
    have hended := h.ended index' before hbefore hheld
    split
    · exact hchange before hended
    · exact hended

theorem Owned.start (h : history.Owned) : (history.start setup).2.Owned := by
  rcases start_cases setup history with ⟨-, hstart⟩ | ⟨-, _, -, hstart⟩ | ⟨hheld, -, hstart⟩
  · rw [hstart]
    exact h
  · rw [hstart]
    exact ⟨h.last, h.ended⟩
  · rw [hstart]
    constructor
    · intro index hindex
      obtain rfl := Option.some.inj hindex
      simp [launched]
    · intro index server hserver hne
      have hlt : index < history.servers.length := by
        have hlength := (List.getElem?_eq_some_iff.mp hserver).1
        have hother : index ≠ history.servers.length := fun heq => hne (heq ▸ rfl)
        simp only [launched, List.length_append, List.length_singleton] at hlength
        omega
      rw [launched, List.getElem?_append_left hlt] at hserver
      exact h.ended index server hserver (by simp [hheld])

theorem Owned.stop (h : history.Owned) : (history.stop setup).2.Owned := by
  cases hheld : history.held with
  | none =>
    rw [stop_of_none hheld]
    exact h
  | some index =>
    obtain ⟨server, hserver⟩ := h.exists_server hheld
    rw [stop_of_held hheld hserver]
    refine ⟨nofun, fun index' server' hserver' _ => ?_⟩
    rw [stopped, History.update, List.getElem?_modify] at hserver'
    obtain ⟨before, hbefore, rfl⟩ := Option.map_eq_some_iff.mp hserver'
    split
    · exact nofun
    · rename_i hne
      exact h.ended index' before hbefore (by simpa [hheld] using hne)

theorem Owned.write (h : history.Owned) (text : List Char) : (history.write text).2.Owned := by
  unfold History.write
  split
  · exact h
  · exact h.update _ fun _ hended => hended

theorem Owned.read (h : history.Owned) : history.read.2.Owned := by
  unfold History.read
  split
  · exact h.update _ fun _ hended => hended
  · exact h

/-- Stopping a session in order leaves nothing held. Without `Owned`, a number could be held that no
server has. -/
theorem Owned.held_stop (h : history.Owned) : (history.stop setup).2.held = none := by
  cases hheld : history.held with
  | none => rw [stop_of_none hheld, hheld]
  | some index =>
    obtain ⟨server, hserver⟩ := h.exists_server hheld
    rw [stop_of_held hheld hserver]
    rfl

end History

/-! ## The states of a run -/

/-- A state is met while steps are done: before a step, behind the last one, or inside a scope. A
statement about all states that are met says more than one about the state at the end, since inside
a scope a server may be held. Its constructors follow `Step.perform`, with one for going into a
scope. -/
inductive Meets (setup : Setup) : List Step → History → History → Prop
  | here (steps : List Step) (history : History) : Meets setup steps history history
  | later {step : Step} {steps : List Step} {history met : History}
      (h : Meets setup steps (step.perform setup history).2 met) :
      Meets setup (step :: steps) history met
  | inside {inner steps : List Step} {history entered met : History}
      (hstart : history.start setup = (.ok (), entered)) (h : Meets setup inner entered met) :
      Meets setup (.scope inner :: steps) history met

/-- The state behind the last step is met. So what is shown of every state that is met is shown of
the outcome of a run. -/
theorem meets_performAll (setup : Setup) (steps : List Step) (history : History) :
    Meets setup steps history (Step.performAll setup steps history).2 := by
  induction steps generalizing history with
  | nil => exact .here [] history
  | cons step steps ih =>
    rw [Step.performAll]
    exact .later (ih _)

/-- What holds before anything that is done with a session, or that happens to it, holds behind it.
There is one condition for each of the primitive steps; scopes are made of these and need none of
their own. `Owned` and the record of the log are the two that are used. -/
structure Invariant (setup : Setup) (holds : History → Prop) : Prop where
  start : ∀ {history}, holds history → holds (history.start setup).2
  stop : ∀ {history}, holds history → holds (history.stop setup).2
  write : ∀ {history} text, holds history → holds (history.write text).2
  read : ∀ {history}, holds history → holds history.read.2
  exit : ∀ {history} status, holds history → holds (history.exit status)
  recast : ∀ {history} script, holds history → holds (history.recast script)

section

variable {holds : History → Prop}

mutual

theorem Invariant.perform (h : Invariant setup holds) :
    ∀ (step : Step) {history : History}, holds history → holds (step.perform setup history).2
  | .start, _, hholds => h.start hholds
  | .stop, _, hholds => h.stop hholds
  | .write text, _, hholds => h.write text hholds
  | .read, history, hholds => by
    have hread := h.read hholds
    rw [Step.perform]
    split
    · rename_i hline
      rwa [hline] at hread
    · rename_i hfault
      rwa [hfault] at hread
  | .exit status, _, hholds => h.exit status hholds
  | .recast script, _, hholds => h.recast script hholds
  | .scope steps, history, hholds => by
    have hstart := h.start hholds
    rw [Step.perform]
    split
    · rename_i hfault
      rwa [hfault] at hstart
    · rename_i entered hentered
      rw [hentered] at hstart
      exact h.stop (h.performAll steps hstart)

theorem Invariant.performAll (h : Invariant setup holds) :
    ∀ (steps : List Step) {history : History}, holds history →
      holds (Step.performAll setup steps history).2
  | [], _, hholds => hholds
  | step :: steps, _, hholds => by
    rw [Step.performAll]
    exact h.performAll steps (h.perform step hholds)

end

/-- **An invariant holds in every state that is met.** The induction is over `Meets`, with
`Invariant.perform` for the steps that are passed. -/
theorem Invariant.of_meets (h : Invariant setup holds) (hmeets : Meets setup steps history met)
    (hholds : holds history) : holds met := by
  induction hmeets with
  | here steps history => exact hholds
  | later _ ih => exact ih (h.perform _ hholds)
  | inside hstart _ ih =>
    have hentered := h.start hholds
    rw [hstart] at hentered
    exact ih hentered

end

theorem invariant_owned (setup : Setup) : Invariant setup History.Owned where
  start h := h.start
  stop h := h.stop
  write text h := h.write text
  read h := h.read
  exit _ h := h.update _ fun _ _ => nofun
  recast _ h := ⟨h.last, h.ended⟩

theorem owned_of_meets (h : Meets setup steps {} met) : met.Owned :=
  (invariant_owned setup).of_meets h History.owned_nil

/-! ## Ownership -/

/-- A server runs exactly if one is held that has not ended. It is `isRunning` with the bookkeeping
taken away. -/
theorem isRunning_iff (history : History) :
    history.isRunning = true ↔ ∃ index server, history.held = some index ∧
      history.servers[index]? = some server ∧ server.status = none := by
  unfold History.isRunning History.current?
  cases history.held with
  | none => simp
  | some index => cases hserver : history.servers[index]? <;> simp [hserver]

/-- What a start does in a state: it launches a server that then is held and runs, or fails to and
holds nothing; if a server is held, ended or not, it changes nothing. `owned_along` says it of every
state that is met. -/
structure StartsOnce (setup : Setup) (history : History) : Prop where
  launches : history.held = none → (history.nextScript setup).refusal = none →
    ∃ after, history.start setup = (.ok (), after) ∧
      after.servers = history.servers ++ [{ script := history.nextScript setup }] ∧
      after.held = some history.servers.length ∧ after.isRunning = true ∧
      after.log = history.log ++ [.spawn setup.command]
  fails : history.held = none → ∀ refusal, (history.nextScript setup).refusal = some refusal →
    ∃ after, history.start setup = (.error (.launch ⟨refusal, setup.command.headD ""⟩), after) ∧
      after.servers = history.servers ∧ after.held = none ∧
      after.log = history.log ++ [.spawn setup.command]
  refuses : history.held ≠ none → history.start setup = (.error .alreadyStarted, history)

theorem startsOnce (setup : Setup) (history : History) : StartsOnce setup history := by
  constructor
  · intro hheld hrefusal
    rcases History.start_cases setup history with ⟨hother, -⟩ | ⟨-, _, hother, -⟩ | ⟨-, -, hstart⟩
    · exact absurd hheld hother
    · cases hrefusal.symm.trans hother
    · exact ⟨_, hstart, rfl, rfl, by simp [isRunning_iff, History.launched], rfl⟩
  · intro hheld refusal hrefusal
    rcases History.start_cases setup history with
      ⟨hother, -⟩ | ⟨-, _, hsame, hstart⟩ | ⟨-, hother, -⟩
    · exact absurd hheld hother
    · obtain rfl := Option.some.inj (hrefusal.symm.trans hsame)
      exact ⟨_, hstart, rfl, hheld, rfl⟩
    · cases hrefusal.symm.trans hother
  · intro hheld
    rcases History.start_cases setup history with ⟨-, hstart⟩ | ⟨hother, -⟩ | ⟨hother, -⟩
    · exact hstart
    · exact absurd hother hheld
    · exact absurd hother hheld

/-- What a scope does in a state: if it cannot be entered then nothing but the start that failed; if
it is entered then it is left with nothing held and every server ended. `owned_along` has it as one
of its parts. -/
structure LeavesNothing (setup : Setup) (inner : List Step) (history : History) : Prop where
  failed : ∀ fault after, history.start setup = (.error fault, after) →
    (Step.scope inner).perform setup history = (.failed fault, after)
  left : ∀ entered, history.start setup = (.ok (), entered) →
    ((Step.scope inner).perform setup history).2.held = none ∧
      ∀ server ∈ ((Step.scope inner).perform setup history).2.servers, server.status ≠ none

theorem leavesNothing (h : history.Owned) (inner : List Step) :
    LeavesNothing setup inner history := by
  constructor
  · intro fault after hstart
    rw [Step.perform, hstart]
  · intro entered hstart
    have howned := (invariant_owned setup).perform (.scope inner) h
    have hheld : ((Step.scope inner).perform setup history).2.held = none := by
      have hentered : (history.start setup).2.Owned := h.start
      rw [hstart] at hentered
      rw [Step.perform, hstart]
      exact ((invariant_owned setup).performAll inner hentered).held_stop
    refine ⟨hheld, fun server hserver => ?_⟩
    obtain ⟨index, hindex⟩ := List.getElem?_of_mem hserver
    exact howned.ended index server hindex (by simp [hheld])

/-- **No server is left behind.** In every state that is met, all servers but the one that is held
have ended; a server runs exactly if one is held that has not ended; a start launches a server
exactly if none is held; and a scope that is entered is left with nothing held. The four parts are
`Owned`, `isRunning_iff`, `StartsOnce` and `LeavesNothing`. -/
theorem owned_along (setup : Setup) (steps : List Step) {met : History}
    (h : Meets setup steps {} met) :
    met.Owned ∧
      (met.isRunning = true ↔ ∃ index server, met.held = some index ∧
        met.servers[index]? = some server ∧ server.status = none) ∧
      StartsOnce setup met ∧ ∀ inner, LeavesNothing setup inner met := by
  have howned := owned_of_meets h
  exact ⟨howned, isRunning_iff met, startsOnce setup met, leavesNothing howned⟩

/-- Inside a scope the server is stopped, another one is started in its place, and that one ends by
itself: it is still held, so that a scope in the scope is refused. -/
theorem owned_along_restart :
    let setup : Setup := { command := ["serve"] }
    let met : History :=
      { servers := [{ status := some (-15) }, { status := some 3 }]
        held := some 1
        log := [.spawn ["serve"], .closeInput, .closeOutput, .terminate, .waitFor setup.grace,
          .spawn ["serve"]] }
    Meets setup [.scope [.stop, .start, .exit 3]] {} met ∧ met.Owned ∧
      (Step.scope [.stop]).perform setup met = (.failed .alreadyStarted, met) := by
  intro setup met
  have hmeets : Meets setup [.scope [.stop, .start, .exit 3]] {} met :=
    .inside rfl (.later (.later (.later (.here [] met))))
  obtain ⟨howned, -, hstart, hscope⟩ := owned_along setup [.scope [.stop, .start, .exit 3]] hmeets
  exact ⟨hmeets, howned, (hscope [.stop]).failed .alreadyStarted met (hstart.refuses nofun)⟩

end Server
end SpiceKit
