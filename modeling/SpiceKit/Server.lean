import SpiceKit.Disk
import SpiceKit.Number.Binary64

/-!
# The language server session

A session owns at most one server at a time. It is started on demand and stopped in a fixed order:
both pipes are closed, a server that still runs is asked to terminate and given time, and one that
does not listen is killed. A server that has ended by itself is still held until the session is
stopped.

`History` is the session together with every server that was ever launched and every event of their
processes, so that ownership and the order of events can be spoken about. Servers here echo: what
is written can be read back, line by line. How a server behaves is settled when it is launched, and
the next one may behave otherwise.
-/

set_option autoImplicit false

namespace SpiceKit
namespace Server

/-- How servers behave: whether they can be launched at all, the status with which they follow a
request to terminate, and whether they ignore it. That is all there is to a script: the pipes of a
server never break, so that writing to them and closing them always succeeds, also when the server
has ended. -/
structure Script where
  refusal : Option Refusal := none
  terminateStatus : Int := -15
  ignoresTerminate : Bool := false
  deriving DecidableEq, Repr

inductive Event where
  | spawn (command : List String)
  | closeInput
  | closeOutput
  | terminate
  | waitFor (limit : Binary64)
  | kill
  | wait
  deriving DecidableEq, Repr

/-- A launched server: the script that it follows, its status once it has ended, and what it has yet
to echo. The script is settled at the launch and stays, so `scriptsOver` can list the scripts of a
whole history. -/
structure Process where
  script : Script := {}
  status : Option Int := none
  buffer : List Char := []
  deriving DecidableEq, Repr

inductive Fault where
  | notStarted
  | alreadyStarted
  | launch (fault : OsFault)
  deriving DecidableEq, Repr

def Fault.message : Fault → String
  | .notStarted => "Language server session is not started"
  | .alreadyStarted => "Language server session is already started"
  | .launch fault => "Failed to start language server: " ++ fault.message

/-- What a session is set up with, and the script that servers follow at first. The grace period is
taken to come to an end: a server that ignores the request to terminate is killed behind it. -/
structure Setup where
  command : List String
  grace : Binary64 := .ofDecimal false 5 0
  script : Script := {}
  deriving DecidableEq, Repr

/-- A session and its past: the servers launched so far in order, which of them is held, the events
of their processes, and the script of the servers to come, if it is no longer that of the setup.
`Owned` says which of these can occur. -/
structure History where
  servers : List Process := []
  held : Option Nat := none
  log : List Event := []
  script : Option Script := none
  deriving DecidableEq, Repr

namespace History

def current? (history : History) : Option Process :=
  history.held.bind fun index => history.servers[index]?

def isRunning (history : History) : Bool := history.current?.any fun server => server.status.isNone

def update (history : History) (index : Nat) (change : Process → Process) : History :=
  { history with servers := history.servers.modify index change }

def note (history : History) (events : List Event) : History :=
  { history with log := history.log ++ events }

def nextScript (setup : Setup) (history : History) : Script := history.script.getD setup.script

/-- Launches a server, if none is held. The attempt is noted before the script is asked, so a
refused launch leaves a `spawn` behind and no server; `start_cases` lists the three outcomes. -/
def start (setup : Setup) (history : History) : Except Fault Unit × History :=
  if history.held.isSome then (.error .alreadyStarted, history)
  else
    let script := history.nextScript setup
    let history := history.note [.spawn setup.command]
    match script.refusal with
    | some refusal => (.error (.launch ⟨refusal, setup.command.headD ""⟩), history)
    | none =>
      (.ok (), { history with
        servers := history.servers ++ [{ script := script }], held := some history.servers.length })

/-- How a server is brought to its end: the events behind the closing of its pipes, and its status.
One that has ended by itself is left alone. The three cases are the endings that `exists_ends`
names. -/
def shutdown (setup : Setup) (server : Process) : List Event × Int :=
  match server.status with
  | some status => ([], status)
  | none =>
    if server.script.ignoresTerminate then ([.terminate, .waitFor setup.grace, .kill, .wait], -9)
    else ([.terminate, .waitFor setup.grace], server.script.terminateStatus)

/-- Stops the held server, if there is one, and answers with its status. Closing the pipes does not
fail, whatever was written and not read, and the wait of `shutdown` ends with the grace period at
the latest. -/
def stop (setup : Setup) (history : History) : Option Int × History :=
  match history.held, history.current? with
  | some index, some server =>
    let (events, status) := shutdown setup server
    let history := { history with held := none }.note (.closeInput :: .closeOutput :: events)
    (some status, history.update index fun server => { server with status := some status })
  | _, _ => (none, history)

def write (text : List Char) (history : History) : Except Fault Unit × History :=
  match history.held with
  | none => (.error .notStarted, history)
  | some index =>
    (.ok (), history.update index fun server => { server with buffer := server.buffer ++ text })

/-- A line at the front of a text, with its line feed, and the rest. At the end of what a server has
to echo the line may be empty, which is what reading from it then answers. -/
def cutLine (text : List Char) : List Char × List Char :=
  match text.dropWhile (· ≠ '\n') with
  | [] => (text, [])
  | lineFeed :: rest => (text.takeWhile (· ≠ '\n') ++ [lineFeed], rest)

def read (history : History) : Except Fault (List Char) × History :=
  match history.held, history.current? with
  | some index, some server =>
    let (line, rest) := cutLine server.buffer
    (.ok line, history.update index fun server => { server with buffer := rest })
  | _, _ => (.error .notStarted, history)

/-- The servers that are launched from now on follow another script. Those that run already keep
theirs, so this changes no event that is noted so far. -/
def recast (script : Script) (history : History) : History := { history with script := some script }

def exit (status : Int) (history : History) : History :=
  history.update (history.servers.length - 1) fun server => { server with status := some status }

end History

/-- Something done with a session, or something that happens to it: a server ends by itself, or the
servers to come behave otherwise. A scope starts it, does more, and stops it; the steps inside may
do anything, start and stop among them. -/
inductive Step where
  | start
  | stop
  | write (text : List Char)
  | read
  | exit (status : Int)
  | recast (script : Script)
  | scope (steps : List Step)

inductive Reply where
  | done
  | status (status : Option Int)
  | line (text : List Char)
  | failed (fault : Fault)
  | scoped (replies : List Reply)

def Reply.ofUnit : Except Fault Unit → Reply
  | .ok () => .done
  | .error fault => .failed fault

mutual

/-- Does one step. A scope that cannot be entered does nothing more; one that was entered is always
left, whatever happened inside. A property of histories that each step keeps is an `Invariant`, and
holds in the middle of every scope as well. -/
def Step.perform (setup : Setup) : Step → History → Reply × History
  | .start, history =>
    let (result, history) := history.start setup
    (.ofUnit result, history)
  | .stop, history =>
    let (status, history) := history.stop setup
    (.status status, history)
  | .write text, history =>
    let (result, history) := history.write text
    (.ofUnit result, history)
  | .read, history =>
    match history.read with
    | (.ok line, history) => (.line line, history)
    | (.error fault, history) => (.failed fault, history)
  | .exit status, history => (.done, history.exit status)
  | .recast script, history => (.done, history.recast script)
  | .scope steps, history =>
    match history.start setup with
    | (.error fault, history) => (.failed fault, history)
    | (.ok (), history) =>
      let (replies, history) := performAll setup steps history
      (.scoped replies, (history.stop setup).2)

def Step.performAll (setup : Setup) : List Step → History → List Reply × History
  | [], history => ([], history)
  | step :: steps, history =>
    let (reply, history) := step.perform setup history
    let (replies, history) := performAll setup steps history
    (reply :: replies, history)

end

end Server
end SpiceKit
