import Mathlib.Data.List.Forall2
import SpiceKit.Proofs.Server.Ownership

/-!
# The order in which servers are shut down

What the processes of a session go through stands in its log. The log of a whole run is made of
pieces, one for each launch: a launch that failed is a spawn alone, and a server that was launched
is a spawn and then its one shutdown, which only the server that is still held has yet to go
through. A shutdown closes both pipes; what follows depends on whether the server had ended by
itself, and on whether it listens when it is asked to terminate. **Every state that is met has such
a log, and a stop adds the shutdown of the server that is held and answers with its status**
(`Server.shutdown_along`).

`Launch` and `Ending` are this grammar. The log of a state is tied to it by `Recorded`, an invariant
of everything that is done with a session; which shutdown is due is said by `Ends`, without the
function that carries it out.
-/

set_option autoImplicit false

namespace SpiceKit
namespace Server

variable {setup : Setup} {history met : History} {steps : List Step}

/-! ## The grammar of logs -/

/-- How a server that was stopped came to its end: it had ended by itself, it was asked to terminate
and did, or it was killed. Each way has its own events and its own status. `Ending.events` and
`Ending.status` are these. -/
inductive Ending where
  | alone (status : Int)
  | terminated (status : Int)
  | killed

namespace Ending

/-- The events of a shutdown. -/
def events (setup : Setup) : Ending → List Event
  | .alone _ => [.closeInput, .closeOutput]
  | .terminated _ => [.closeInput, .closeOutput, .terminate, .waitFor setup.grace]
  | .killed => [.closeInput, .closeOutput, .terminate, .waitFor setup.grace, .kill, .wait]

def status : Ending → Int
  | .alone status => status
  | .terminated status => status
  | .killed => -9

/-- A server is killed only if its script is to ignore that it is asked to terminate, and otherwise
follows the request with the status of its script. A server that has ended by itself may have ended
with any status. `Recorded` has it for each launch with the script of its server. -/
inductive Follows : Ending → Script → Prop
  | alone (status : Int) (script : Script) : Follows (.alone status) script
  | terminated {script : Script} (h : script.ignoresTerminate = false) :
      Follows (.terminated script.terminateStatus) script
  | killed {script : Script} (h : script.ignoresTerminate = true) : Follows .killed script

end Ending

inductive Ends : Process → Ending → Prop
  | alone {server : Process} {status : Int} (h : server.status = some status) :
      Ends server (.alone status)
  | terminated {server : Process} (h : server.status = none)
      (hlistens : server.script.ignoresTerminate = false) :
      Ends server (.terminated server.script.terminateStatus)
  | killed {server : Process} (h : server.status = none)
      (hignores : server.script.ignoresTerminate = true) : Ends server .killed

inductive Launch where
  | failed
  | stopped (ending : Ending)

namespace Launch

/-- The events of a launch that is over. -/
def events (setup : Setup) : Launch → List Event
  | .failed => [.spawn setup.command]
  | .stopped ending => .spawn setup.command :: ending.events setup

def ending? : Launch → Option Ending
  | .failed => none
  | .stopped ending => some ending

end Launch

namespace History

def underWay (setup : Setup) (history : History) : List Event :=
  if history.held.isSome then [.spawn setup.command] else []

def scriptsOver (history : History) : List Script :=
  if history.held.isSome then (history.servers.map Process.script).dropLast
  else history.servers.map Process.script

end History

/-- The log of a state is that of the launches that are over, one behind the other, and of the one
that is not; and the servers that are no longer held came to their ends in that order. This is the
invariant from which `shutdown_along` reads the language of logs. -/
structure Recorded (setup : Setup) (launches : List Launch) (history : History) : Prop where
  log : history.log = launches.flatMap (Launch.events setup) ++ history.underWay setup
  scripts : List.Forall₂ Ending.Follows (launches.filterMap Launch.ending?) history.scriptsOver

theorem recorded_nil (setup : Setup) : Recorded setup [] {} := ⟨rfl, .nil⟩

/-! ## Shutdowns -/

theorem Ends.follows {server : Process} {ending : Ending} (h : Ends server ending) :
    ending.Follows server.script := by
  cases h with
  | alone h => exact .alone _ _
  | terminated h hlistens => exact .terminated hlistens
  | killed h hignores => exact .killed hignores

/-- **The shutdown of a server is that of the ending it comes to.** `shutdown` computes what an
`Ending` names. -/
theorem exists_ends (setup : Setup) (server : Process) :
    ∃ ending, Ends server ending ∧
      .closeInput :: .closeOutput :: (History.shutdown setup server).1 = ending.events setup ∧
      (History.shutdown setup server).2 = ending.status := by
  unfold History.shutdown
  cases hstatus : server.status with
  | some status => exact ⟨.alone status, .alone hstatus, rfl, rfl⟩
  | none =>
    cases hignores : server.script.ignoresTerminate with
    | true => exact ⟨.killed, .killed hstatus hignores, rfl, rfl⟩
    | false => exact ⟨_, .terminated hstatus hignores, rfl, rfl⟩

/-! ## What is recorded stays recorded -/

theorem scripts_update (index : Nat) {change : Process → Process}
    (hchange : ∀ server, (change server).script = server.script) :
    (history.update index change).servers.map Process.script =
      history.servers.map Process.script := by
  apply List.ext_getElem?
  intro index'
  rw [List.getElem?_map, List.getElem?_map, History.update, List.getElem?_modify]
  cases history.servers[index']? with
  | none => rfl
  | some server =>
    by_cases heq : index = index'
    · simp [heq, hchange server]
    · simp [heq]

namespace Recorded

variable {launches : List Launch}

theorem update (h : Recorded setup launches history) (index : Nat) {change : Process → Process}
    (hchange : ∀ server, (change server).script = server.script) :
    Recorded setup launches (history.update index change) := by
  refine ⟨h.log, ?_⟩
  have hscripts : (history.update index change).scriptsOver = history.scriptsOver := by
    unfold History.scriptsOver
    rw [scripts_update index hchange]
    rfl
  rw [hscripts]
  exact h.scripts

theorem fail (h : Recorded setup launches history) (hheld : history.held = none) :
    Recorded setup (launches ++ [.failed]) (history.note [.spawn setup.command]) := by
  constructor
  · simp [History.note, h.log, History.underWay, hheld, Launch.events]
  · have hnone : List.filterMap Launch.ending? [.failed] = [] := rfl
    rw [List.filterMap_append, hnone, List.append_nil]
    exact h.scripts

theorem launch (h : Recorded setup launches history) (hheld : history.held = none) :
    Recorded setup launches (history.launched setup) := by
  constructor
  · simp [History.launched, History.note, h.log, History.underWay, hheld]
  · simpa [History.launched, History.scriptsOver, hheld] using h.scripts

theorem stop (h : Recorded setup launches history) {index : Nat} {server : Process} {ending : Ending}
    (hheld : history.held = some index) (hlast : index + 1 = history.servers.length)
    (hserver : history.servers[index]? = some server) (hends : Ends server ending)
    (hevents : .closeInput :: .closeOutput :: (History.shutdown setup server).1 =
      ending.events setup) :
    Recorded setup (launches ++ [.stopped ending]) (history.stopped setup index server) := by
  constructor
  · simp [History.stopped, History.update, History.note, h.log, History.underWay, hheld,
      Launch.events, hevents]
  · -- The server that is stopped is the last one, and its script does not change.
    have hservers : history.servers = history.servers.dropLast ++ [server] := by
      refine (List.dropLast_append_getLast? server ?_).symm
      rw [List.getLast?_eq_getElem?, ← hlast]
      exact hserver
    have hbefore : history.scriptsOver = history.servers.dropLast.map Process.script := by
      simp [History.scriptsOver, hheld, List.map_dropLast]
    have hafter : (history.stopped setup index server).scriptsOver =
        history.servers.dropLast.map Process.script ++ [server.script] := by
      have hscripts : (history.stopped setup index server).servers.map Process.script =
          history.servers.map Process.script := scripts_update index fun _ => rfl
      refine hscripts.trans ?_
      rw [← List.map_singleton, ← List.map_append, ← hservers]
    rw [List.filterMap_append, hafter]
    exact List.rel_append (hbefore ▸ h.scripts) (.cons hends.follows .nil)

end Recorded

/-! ## Along a run -/

/-- What a stop does in a state: nothing if nothing is held; otherwise it shuts down the server that
is held, and answers with the status to which it came. What the log gains is the `Ending` that is
due, behind the two pipes. -/
structure StopsInOrder (setup : Setup) (launches : List Launch) (history : History) : Prop where
  nothing : history.held = none → history.stop setup = (none, history)
  shutdown : ∀ index, history.held = some index → ∃ server ending,
    history.servers[index]? = some server ∧ Ends server ending ∧
      (history.stop setup).1 = some ending.status ∧
      (history.stop setup).2.log = history.log ++ ending.events setup ∧
      Recorded setup (launches ++ [.stopped ending]) (history.stop setup).2

theorem stopsInOrder {launches : List Launch} (howned : history.Owned)
    (h : Recorded setup launches history) : StopsInOrder setup launches history := by
  constructor
  · exact History.stop_of_none
  · intro index hheld
    obtain ⟨server, hserver⟩ := howned.exists_server hheld
    obtain ⟨ending, hends, hevents, hstatus⟩ := exists_ends setup server
    rw [History.stop_of_held hheld hserver]
    refine ⟨server, ending, hserver, hends, congrArg some hstatus, ?_, ?_⟩
    · rw [← hevents]
      rfl
    · exact h.stop hheld (howned.last index hheld) hserver hends hevents

/-- **The log of a state is recorded launch by launch**, whatever is done with the session. A log
that is `Recorded` is a list of launches, the last of which may be under way. -/
theorem invariant_recorded (setup : Setup) :
    Invariant setup fun history => history.Owned ∧ ∃ launches, Recorded setup launches history where
  start := by
    rintro history ⟨howned, launches, h⟩
    refine ⟨howned.start, ?_⟩
    rcases History.start_cases setup history with
      ⟨-, hstart⟩ | ⟨hheld, _, -, hstart⟩ | ⟨hheld, -, hstart⟩
    · exact ⟨launches, by rw [hstart]; exact h⟩
    · exact ⟨launches ++ [.failed], by rw [hstart]; exact h.fail hheld⟩
    · exact ⟨launches, by rw [hstart]; exact h.launch hheld⟩
  stop := by
    rintro history ⟨howned, launches, h⟩
    refine ⟨howned.stop, ?_⟩
    have hstop := stopsInOrder howned h
    cases hheld : history.held with
    | none => exact ⟨launches, by rw [hstop.nothing hheld]; exact h⟩
    | some index =>
      obtain ⟨_, ending, -, -, -, -, hrecorded⟩ := hstop.shutdown index hheld
      exact ⟨launches ++ [.stopped ending], hrecorded⟩
  write := by
    rintro history text ⟨howned, launches, h⟩
    refine ⟨howned.write text, launches, ?_⟩
    unfold History.write
    split
    · exact h
    · exact h.update _ fun _ => rfl
  read := by
    rintro history ⟨howned, launches, h⟩
    refine ⟨howned.read, launches, ?_⟩
    unfold History.read
    split
    · exact h.update _ fun _ => rfl
    · exact h
  exit := by
    rintro history status ⟨howned, launches, h⟩
    exact ⟨howned.update _ fun _ _ => nofun, launches, h.update _ fun _ => rfl⟩
  recast := by
    rintro history script ⟨howned, launches, h⟩
    exact ⟨⟨howned.last, howned.ended⟩, launches, h.log, h.scripts⟩

/-- **Servers are shut down in order.** The log of a run is that of its launches, one behind the
other, and in every state that is met a stop adds the shutdown that is due, and answers with the
status to which the server came. It is `invariant_recorded` for every state, and `stopsInOrder` for
a stop in it. -/
theorem shutdown_along (setup : Setup) (steps : List Step) :
    (∃ launches, Recorded setup launches (Step.performAll setup steps {}).2) ∧
      ∀ met, Meets setup steps {} met →
        ∃ launches, Recorded setup launches met ∧ StopsInOrder setup launches met := by
  have hmet : ∀ met, Meets setup steps {} met →
      ∃ launches, Recorded setup launches met ∧ StopsInOrder setup launches met := by
    intro met h
    obtain ⟨howned, launches, hrecorded⟩ :=
      (invariant_recorded setup).of_meets h ⟨History.owned_nil, [], recorded_nil setup⟩
    exact ⟨launches, hrecorded, stopsInOrder howned hrecorded⟩
  obtain ⟨launches, hrecorded, -⟩ := hmet _ (meets_performAll setup steps {})
  exact ⟨⟨launches, hrecorded⟩, hmet⟩

/-- A launch that fails, and then, in a scope, a server that will not listen. -/
theorem shutdown_along_ignored :
    let setup : Setup := { command := ["serve"], script := { refusal := some .noEntry } }
    let deaf : Script := { ignoresTerminate := true }
    let met : History :=
      { servers := [{ script := deaf }], held := some 0
        log := [.spawn ["serve"], .spawn ["serve"]], script := some deaf }
    Meets setup [.start, .recast deaf, .scope [.stop]] {} met ∧
      ∃ launches, Recorded setup launches met ∧
        ∃ ending, Ends { script := deaf } ending ∧ (met.stop setup).1 = some ending.status ∧
          Recorded setup (launches ++ [.stopped ending]) (met.stop setup).2 := by
  intro setup deaf met
  have hmeets : Meets setup [.start, .recast deaf, .scope [.stop]] {} met :=
    .later (.later (.inside rfl (.here [.stop] met)))
  obtain ⟨launches, hrecorded, hstops⟩ :=
    (shutdown_along setup [.start, .recast deaf, .scope [.stop]]).2 met hmeets
  obtain ⟨server, ending, hserver, hends, hstatus, -, hafter⟩ := hstops.shutdown 0 rfl
  obtain rfl := Option.some.inj hserver
  exact ⟨hmeets, launches, hrecorded, ending, hends, hstatus, hafter⟩

end Server
end SpiceKit
