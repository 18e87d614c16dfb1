import SpiceKit.Proofs.Text.Trim
import SpiceKit.Proofs.Workplace

/-!
# The verdict on a captured tool

Compiling and checking start the compiler in the same way and judge alike what comes of it; they
differ in the arguments, in the words of a complaint and in the product. A `Capture` is one of the
two, and `Capture.verdict` is what an outcome comes to. Everything here is read off one equation:
where the setting can be cut into words, the tool is started once and the verdict is the answer
(`Capture.runAt_act_ok`); where it cannot, nothing is started (`Capture.runAt_act_error`).

**No failed tool passes for a success** (`captured_never_passes_failure`): there is a product
exactly when the tool came to its end with status zero and wrote nothing but blanks, where what it
wrote is decoded with a replacement for whatever is no text, so that bytes that stand for nothing
are not blank. Every other outcome is a fault of the tool, and its message ends with what the tool
said, or with its status if it said nothing.
-/

set_option autoImplicit false

namespace SpiceKit

namespace Tool

open Work Text

/-! ## What a tool said -/

/-- What a tool wrote to standard error, as text: decoded, with unified line ends, but with the
blanks at its ends. `complaintOf` is this text trimmed. -/
def said (errors : List UInt8) : List Char := unifyNewlines (Utf8.decodeLossy errors)

theorem toList_complaintOf (errors : List UInt8) :
    (complaintOf errors).toList = trim (said errors) := by
  rw [complaintOf, String.toList_ofList, said]

theorem complaintOf_eq_empty_iff {errors : List UInt8} :
    complaintOf errors = "" ↔ said errors ∈ blanks := by
  rw [← trim_eq_nil_iff, ← toList_complaintOf, String.toList_eq_nil_iff]

theorem trim_said_suffix (front : String) (errors : List UInt8) :
    trim (said errors) <:+ (front ++ complaintOf errors).toList := by
  rw [← toList_complaintOf, String.toList_append]
  exact List.suffix_append _ _

theorem message_complaint (task : Task) (errors : String) :
    (Fault.complaint task errors).message = task.complaint ++ errors := rfl

theorem message_status (task : Task) (status : Int) (errors : String) :
    (Fault.status task status errors).message = "Failed to " ++ task.verb ++ ": " ++
      (if errors = "" then "exit status " ++ toString status else errors) := rfl

/-- The message of a failure tells what a tool that came to its end had to say: it ends with what
the tool wrote, without the blanks at both ends. If that is nothing, the status is not zero and the
message ends with it. What the tool wrote is `said`, trimmed as `Trimmed` has it. -/
def Fault.Tells (failure : Fault) (status : Int) (errors : List UInt8) : Prop :=
  (said errors ∉ blanks → ∃ core, Trimmed (said errors) core ∧ core <:+ failure.message.toList) ∧
  (said errors ∈ blanks →
    status ≠ 0 ∧ ("exit status " ++ toString status).toList <:+ failure.message.toList)

/-! ## Captures -/

theorem runAt_capture_ok {settings : Settings} {place : Workplace} {words : List WideText}
    (h : ShellWords.split settings.compiler = .ok words) (task : Task)
    (arguments : List WideText) :
    runAt (capture settings task arguments) place =
      ((judge task ⟨words ++ arguments, .captured settings.timeLimit⟩ settings.timeLimit
          place.tools).mapError .tool,
        { place with
          launches := place.launches ++ [⟨words ++ arguments, .captured settings.timeLimit⟩] }) := by
  unfold capture Tool.words
  rw [h, runAt_bind_ok (runAt_pure _ _), runAt_bind_ok (runAt_launch _ _)]
  cases judge task _ settings.timeLimit place.tools with
  | error fault => rfl
  | ok complaint => rfl

theorem runAt_capture_error {settings : Settings} {place : Workplace} {fault : ShellWords.Fault}
    (h : ShellWords.split settings.compiler = .error fault) (task : Task)
    (arguments : List WideText) :
    runAt (capture settings task arguments) place = (.error (.words fault), place) := by
  unfold capture Tool.words
  rw [h]
  exact runAt_bind_error (runAt_throw _ _) _

/-- What the compiler is started for with its output captured. The two differ in their arguments and
in what is answered when all went well, and in nothing else (`act_eq`). -/
inductive Capture where
  | compile
  | check

namespace Capture

def task : Capture → Task
  | .compile => .compile
  | .check => .check

def arguments (path : Path) : Capture → List WideText
  | .compile => [path.toString, "-o", path.compiled.toString]
  | .check => [path.toString, "-c"]

def product (path : Path) : Capture → Product
  | .compile =>
    { message := "Successfully compiled to " ++ String.ofList path.compiled.name
      file := some path.compiled }
  | .check => { message := "Syntax check passed!" }

def act (settings : Settings) (path : Path) : Capture → Work Product
  | .compile => Tool.compile settings path
  | .check => Tool.check settings path

def launched (capture : Capture) (settings : Settings) (path : Path) (words : List WideText) :
    Launch :=
  ⟨words ++ capture.arguments path, .captured settings.timeLimit⟩

def verdict (capture : Capture) (settings : Settings) (path : Path) (words : List WideText)
    (outcome : Outcome) : Except Fault Product :=
  match judge capture.task (capture.launched settings path words) settings.timeLimit outcome with
  | .error fault => .error fault
  | .ok complaint =>
    if complaint = "" then .ok (capture.product path)
    else .error (.complaint capture.task complaint)

variable {capture : Capture} {settings : Settings} {path : Path} {place : Workplace}
  {words : List WideText}

theorem act_eq (capture : Capture) (settings : Settings) (path : Path) :
    capture.act settings path = (do
      let complaint ← Tool.capture settings capture.task (capture.arguments path)
      if complaint = "" then return capture.product path
      else throw (.tool (.complaint capture.task complaint))) := by
  cases capture with
  | compile => rfl
  | check => rfl

/-- **Where the setting can be cut into words, the tool is started once and the verdict is the
answer.** The verdict is `Capture.verdict`, of the outcome that the workplace holds. -/
theorem runAt_act_ok (h : ShellWords.split settings.compiler = .ok words) :
    runAt (capture.act settings path) place =
      ((capture.verdict settings path words place.tools).mapError .tool,
        { place with launches := place.launches ++ [capture.launched settings path words] }) := by
  rw [act_eq, runAt_bind, runAt_capture_ok h, verdict, launched]
  cases judge capture.task ⟨words ++ capture.arguments path, .captured settings.timeLimit⟩
      settings.timeLimit place.tools with
  | error fault => rfl
  | ok complaint =>
    simp only [Except.mapError]
    split
    · rfl
    · rfl

theorem runAt_act_error {fault : ShellWords.Fault}
    (h : ShellWords.split settings.compiler = .error fault) :
    runAt (capture.act settings path) place = (.error (.words fault), place) := by
  rw [act_eq]
  exact runAt_bind_error (runAt_capture_error h _ _) _

/-! ## What an outcome comes to -/

theorem verdict_eq_ok_iff {outcome : Outcome} {product : Product} :
    capture.verdict settings path words outcome = .ok product ↔
      (∃ errors, outcome = .finished 0 errors ∧ said errors ∈ blanks) ∧
        product = capture.product path := by
  unfold verdict
  cases outcome with
  | refused refusal => simp [judge]
  | endless => simp [judge]
  | finished status errors =>
    by_cases hstatus : status = 0
    · subst hstatus
      by_cases hsilent : complaintOf errors = ""
      · simp [judge, hsilent, complaintOf_eq_empty_iff.mp hsilent, eq_comm]
      · simp [judge, hsilent, mt complaintOf_eq_empty_iff.mpr hsilent]
    · simp [judge, hstatus]

theorem verdict_finished_eq_error {status : Int} {errors : List UInt8} {fault : Fault}
    (h : capture.verdict settings path words (.finished status errors) = .error fault) :
    (status = 0 ∧ said errors ∉ blanks ∧
      fault = .complaint capture.task (complaintOf errors)) ∨
    (status ≠ 0 ∧ fault = .status capture.task status (complaintOf errors)) := by
  simp only [verdict, judge] at h
  by_cases hstatus : status = 0
  · rw [if_pos hstatus] at h
    simp only at h
    split at h
    · cases h
    · rename_i hloud
      exact Or.inl ⟨hstatus, mt complaintOf_eq_empty_iff.mpr hloud, (Except.error.inj h).symm⟩
  · rw [if_neg hstatus] at h
    exact Or.inr ⟨hstatus, (Except.error.inj h).symm⟩

theorem tells_of_verdict {status : Int} {errors : List UInt8} {fault : Fault}
    (h : capture.verdict settings path words (.finished status errors) = .error fault) :
    fault.Tells status errors := by
  unfold Fault.Tells
  rcases verdict_finished_eq_error h with ⟨-, hloud, rfl⟩ | ⟨hstatus, rfl⟩
  · rw [message_complaint]
    exact ⟨fun _ => ⟨_, trimmed_trim _, trim_said_suffix _ _⟩, fun hsilent => absurd hsilent hloud⟩
  · rw [message_status]
    constructor
    · intro hloud
      rw [if_neg (mt complaintOf_eq_empty_iff.mp hloud)]
      exact ⟨_, trimmed_trim _, trim_said_suffix _ _⟩
    · intro hsilent
      refine ⟨hstatus, ?_⟩
      rw [if_pos (complaintOf_eq_empty_iff.mpr hsilent)]
      simp only [String.toList_append]
      exact List.suffix_append _ _

end Capture

open Capture

/-- **No failed tool passes for a success.** Where the setting of the compiler can be cut into
words, the tool is started once and nothing else is changed; where it cannot, nothing is started.
There is a product exactly when the setting can be cut and the tool came to its end with status zero
and wrote nothing but blanks. Where the tool was started and there is no product, the fault is one
of the tool; if the tool came to its end the message tells what it had to say. `Capture` stands for
compiling and checking, which are both meant. -/
theorem captured_never_passes_failure (capture : Capture) (settings : Settings) (path : Path)
    (place : Workplace) :
    (∀ words, ShellWords.split settings.compiler = .ok words →
      (runAt (capture.act settings path) place).2 =
        { place with launches := place.launches ++ [capture.launched settings path words] }) ∧
    (∀ fault, ShellWords.split settings.compiler = .error fault →
      runAt (capture.act settings path) place = (.error (.words fault), place)) ∧
    ((∃ product, (runAt (capture.act settings path) place).1 = .ok product) ↔
      (∃ words, ShellWords.split settings.compiler = .ok words) ∧
        ∃ errors, place.tools = .finished 0 errors ∧ said errors ∈ blanks) ∧
    (∀ words, ShellWords.split settings.compiler = .ok words →
      ∀ fault, (runAt (capture.act settings path) place).1 = .error fault →
        ∃ failure, fault = .tool failure ∧
          ∀ status errors, place.tools = .finished status errors → failure.Tells status errors) := by
  refine ⟨fun words hwords => ?_, fun fault hfault => runAt_act_error hfault, ?_,
    fun words hwords fault hfails => ?_⟩
  · rw [runAt_act_ok hwords]
  · cases hwords : ShellWords.split settings.compiler with
    | error fault => simp [runAt_act_error hwords]
    | ok words =>
      rw [runAt_act_ok hwords]
      cases hverdict : capture.verdict settings path words place.tools with
      | error failure =>
        constructor
        · rintro ⟨product, h⟩
          cases h
        · rintro ⟨-, hsuccess⟩
          cases hverdict.symm.trans (verdict_eq_ok_iff.mpr ⟨hsuccess, rfl⟩)
      | ok product =>
        exact ⟨fun _ => ⟨⟨words, rfl⟩, (verdict_eq_ok_iff.mp hverdict).1⟩,
          fun _ => ⟨product, rfl⟩⟩
  · rw [runAt_act_ok hwords] at hfails
    cases hverdict : capture.verdict settings path words place.tools with
    | ok product =>
      rw [hverdict] at hfails
      cases hfails
    | error failure =>
      rw [hverdict] at hfails
      refine ⟨failure, (Except.error.inj hfails).symm, fun status errors htools => ?_⟩
      rw [htools] at hverdict
      exact tells_of_verdict hverdict

/-- A compiler that is killed and wrote an empty line: its status is told. -/
theorem captured_never_passes_failure_killed :
    let place : Workplace :=
      { disk := ⟨.emptyFolder, []⟩, store := { keeper := .memory {} },
        tools := .finished (-9) [13, 10] }
    (runAt (Capture.compile.act {} (.ofString "a.spc")) place).1 =
        .error (.tool (.status .compile (-9) "")) ∧
      "exit status -9".toList <:+ (Fault.status .compile (-9) "").message.toList := by
  intro place
  have hwords : ShellWords.split ({} : Settings).compiler = .ok [.ofString "spicy"] := rfl
  have hrun : (runAt (Capture.compile.act {} (.ofString "a.spc")) place).1 =
      .error (.tool (.status .compile (-9) "")) := rfl
  obtain ⟨failure, hfailure, htells⟩ :=
    (captured_never_passes_failure .compile {} _ place).2.2.2 _ hwords _ hrun
  obtain rfl := SpiceKit.Fault.tool.inj hfailure
  have hsaid : said [13, 10] = ['\n'] := rfl
  have hsilent : said [13, 10] ∈ blanks :=
    hsaid ▸ mem_blanks.mpr (List.forall_mem_singleton.mpr (by decide))
  exact ⟨hrun, ((htells (-9) [13, 10] rfl).2 hsilent).2⟩

end Tool
end SpiceKit
