import SpiceKit.Proofs.Cli.Steps

/-!
# What leaves a command and is not reported

Faults of settings and of tools are reported wherever they are met, and so are files that cannot be
read. **What is left is listed by `Command.Escapes`, cause by cause**: a path too long to be looked
up, a number in the settings file that is too long or too great or a nesting too deep, a pattern
file whose patterns are none, a path that is taken for markup and is none, an input that ends before
an answer, a settings file with a NUL in its path or too many missing folders above it, a program
whose setting cannot be cut into words, and a program that does not come to an end.

The lemmas here say for each part of a command what escapes from it: for the settings, the document,
the gate and the tool.
-/

set_option autoImplicit false

namespace SpiceKit

namespace Disk

variable {disk : Disk} {path : Path} {fault : OsFault}

/-- A path, or a name on its way, is too long to be looked up. It is the only thing at which looking
fails with a fault; of whatever else is in the way, looking says that nothing is there
(`find_eq_error_iff`). -/
def TooLong (disk : Disk) (path : Path) : Prop :=
  path.hasNull = false ∧ disk.place path = .error .tooLong

theorem follow_eq_error {tree : Node} {place : List (List Char)} {names : List (List Char)}
    {refusal : Refusal} (h : follow tree place names = .error refusal) :
    saysAbsent refusal = true ∨ refusal = .tooLong := by
  induction names generalizing place with
  | nil => cases h
  | cons name names ih =>
    rw [follow] at h
    split at h
    · obtain rfl := Except.error.inj h
      exact Or.inl rfl
    · obtain rfl := Except.error.inj h
      exact Or.inl rfl
    · split at h
      · exact ih h
      · split at h
        · exact Or.inr (Except.error.inj h).symm
        · exact ih h

/-- Looking fails at nothing but what is too long. Such a path is `TooLong`. -/
theorem find_eq_error_iff :
    disk.find path = .error fault ↔ disk.TooLong path ∧ fault = faultAt path .tooLong := by
  unfold find TooLong
  cases path.hasNull with
  | true => simp
  | false =>
    cases hplace : disk.place path with
    | ok place => simp
    | error refusal =>
      have hrefusal : saysAbsent refusal = true ∨ refusal = .tooLong := by
        unfold place at hplace
        split at hplace
        · exact Or.inr (Except.error.inj hplace).symm
        · exact follow_eq_error hplace
      rcases hrefusal with habsent | rfl
      · have hne : refusal ≠ .tooLong := by
          rintro rfl
          exact absurd habsent (by decide)
        simp [habsent, hne]
      · simp [saysAbsent, eq_comm]

theorem map_find_eq_error_iff {α : Type} (f : Option Node → α) :
    (disk.find path).map f = .error fault ↔ disk.TooLong path ∧ fault = faultAt path .tooLong := by
  rw [← find_eq_error_iff]
  cases disk.find path <;> simp [Except.map]

end Disk

namespace Cli

open Work SpiceKit.Action
open Settings.Keeper (load_of_readText)

variable {ρ : Type} {conventions : Conventions ρ} {place : Workplace} {path : Path}
  {kept : Settings} {fault : Fault}

/-! ## What nothing reports -/

/-- The settings file can be read, and yet there are no settings in it that could be used: a number
is too long or too great, or the text nests too deep. Or the path of the file is too long to be
looked up. All other faults of loading are reported (`loadEscapes_iff`). -/
inductive LoadEscapes (disk : Disk) (path : Path) : Fault → Prop
  | tooLong (h : disk.TooLong path) : LoadEscapes disk path (.system (Disk.faultAt path .tooLong))
  | longInteger {text : List Char} {digits : Nat} (htext : disk.readText path = .ok text)
      (h : Json.read text = .error (.oversized digits)) :
      LoadEscapes disk path (.longInteger text (.oversized digits))
  | deepNesting {text : List Char} {container : Json.Container} (htext : disk.readText path = .ok text)
      (h : Json.read text = .error (.nested container)) :
      LoadEscapes disk path (.deepNesting text (.nested container))
  | hugeTimeLimit {text : List Char} {members : List (String × Json.Value)}
      (htext : disk.readText path = .ok text) (hread : Json.read text = .ok (.object members))
      (h : Settings.ofMembers members = .error .hugeTimeLimit) : LoadEscapes disk path .hugeTimeLimit

/-- The path of the settings file holds a NUL, or too many folders are missing on its way. All other
faults of saving are reported (`keepEscapes_iff`). -/
inductive KeepEscapes (disk : Disk) (path : Path) (settings : Settings) : Fault → Prop
  | nullName {after : Disk} (h : Settings.Store.writeFile disk path settings = (after, some .nullName)) :
      KeepEscapes disk path settings .nullName
  | deepPath {after : Disk} (h : Settings.Store.writeFile disk path settings = (after, some .deepPath)) :
      KeepEscapes disk path settings .deepPath

namespace Command

def path? : Command → Option Path
  | .outline file _ => some (.ofString file)
  | .lint path _ => some (.ofString path)
  | .definition file _ _ => some (.ofString file)
  | .compile file _ => some (.ofString file)
  | .run file _ => some (.ofString file)
  | .check file => some (.ofString file)
  | .restoreWarning => none

def guarded? : Command → Option (String × Option Consent.Choice)
  | .compile file answer => some (file, answer)
  | .run file answer => some (file, answer)
  | _ => none

def program? (settings : Settings) : Command → Option WideText
  | .compile _ _ => some settings.compiler
  | .run _ _ => some settings.runner
  | .check _ => some settings.compiler
  | _ => none

/-- A command comes to start its program: its document is saved, and consented to if it has to be.
`Escapes.words` and `Escapes.endless` happen from there on. -/
inductive Starts (path : Path) (kept : Settings) (place : Workplace) : Command → Prop
  | guarded {command : Command} {file : String} {answer : Option Consent.Choice} {document : Document}
      {settings : Settings} (hguarded : command.guarded? = some (file, answer))
      (hdocument : documentOf? place.disk file = .ok (some document))
      (h : (readied path kept document answer place.console.input place.disk).result =
        .ok (some settings)) : Starts path kept place command
  | check {file : String} {document : Document} {saved : Disk}
      (hdocument : documentOf? place.disk file = .ok (some document))
      (h : place.disk.writeText document.path document.text = .ok saved) :
      Starts path kept place (.check file)

/-- **The faults with which a command leaves without a status**, and what each comes from. The
settings are kept in a file. There is one constructor for each cause, and `fails_perform_iff` says
that there are no others and that each of them does leave the command. -/
inductive Escapes (conventions : Conventions ρ) (path : Path) (kept : Settings) (place : Workplace) :
    Command → Fault → Prop
  | tooLong {command : Command} {source : Path} (hsource : command.path? = some source)
      (h : place.disk.TooLong source) :
      Escapes conventions path kept place command (.system (Disk.faultAt source .tooLong))
  | pattern {folder : String} {format : Format} {line : String}
      (hthere : place.disk.has (.ofString folder) = .ok true)
      (h : Workspace.surveyBy conventions.patterns place.disk (.ofString folder) =
        .error (.pattern line)) :
      Escapes conventions path kept place (.lint folder format) (.pattern line)
  | reversedRange {folder : String} {format : Format} {range : Ignore.Reversed}
      (hthere : place.disk.has (.ofString folder) = .ok true)
      (h : Workspace.surveyBy conventions.patterns place.disk (.ofString folder) =
        .error (.reversedRange range)) :
      Escapes conventions path kept place (.lint folder format) (.reversedRange range)
  | markup {folder : String} {before later : List Workspace.Report} {report : Workspace.Report}
      {failures : List Workspace.Failure} {fault : Markup.Fault}
      (hthere : place.disk.has (.ofString folder) = .ok true)
      (hsurvey : Workspace.surveyBy conventions.patterns place.disk (.ofString folder) =
        .ok (before ++ report :: later, failures))
      (hbefore : ∀ other ∈ before, ∃ title, conventions.title other.path = .ok title)
      (h : conventions.title report.path = .error fault) :
      Escapes conventions path kept place (.lint folder .table) (.markup fault)
  | endOfInput {command : Command} {file : String} {answer : Option Consent.Choice}
      {document : Document} {saved : Disk} (hguarded : command.guarded? = some (file, answer))
      (hdocument : documentOf? place.disk file = .ok (some document))
      (hsave : place.disk.writeText document.path document.text = .ok saved)
      (hneeded : Consent.needed kept.redefinitionCheck document.redefinitions = true)
      (h : reply answer place.console.input = none) :
      Escapes conventions path kept place command .endOfInput
  | unkept {command : Command} {file : String} {answer : Option Consent.Choice}
      {document : Document} {saved : Disk} {fault : Fault}
      (hguarded : command.guarded? = some (file, answer))
      (hdocument : documentOf? place.disk file = .ok (some document))
      (hsave : place.disk.writeText document.path document.text = .ok saved)
      (hneeded : Consent.needed kept.redefinitionCheck document.redefinitions = true)
      (hnever : reply answer place.console.input = some .neverAsk)
      (h : KeepEscapes saved path (kept.withRedefinitionCheck false) fault) :
      Escapes conventions path kept place command fault
  | words {command : Command} {program : WideText} {fault : ShellWords.Fault}
      (hstarts : command.Starts path kept place)
      (hprogram : command.program? (place.store.overlay kept) = some program)
      (h : ShellWords.split program = .error fault) :
      Escapes conventions path kept place command (.words fault)
  | endless {file : String} {answer : Option Consent.Choice} {words : List WideText}
      (hstarts : (Command.run file answer).Starts path kept place)
      (hwords : ShellWords.split (place.store.overlay kept).runner = .ok words)
      (h : place.tools = .endless) :
      Escapes conventions path kept place (.run file answer)
        (.endlessRun (words ++ [.ofString (Path.ofString file).toString]))
  | restoreWarning {fault : Fault}
      (h : KeepEscapes place.disk path (kept.withRedefinitionCheck true) fault) :
      Escapes conventions path kept place .restoreWarning fault

end Command

/-- **The faults with which an invocation leaves without a status**: those of its settings, or else
those of its command. Those of the settings are `LoadEscapes`, those of the command
`Command.Escapes`. -/
inductive Invocation.Escapes (conventions : Conventions ρ) (usual : Path) (place : Workplace)
    (invocation : Invocation) : Fault → Prop
  | settings {fault : Fault} (h : LoadEscapes place.disk (invocation.keptIn usual) fault) :
      Escapes conventions usual place invocation fault
  | command {kept : Settings} {fault : Fault}
      (hkept : (Settings.Keeper.file (invocation.keptIn usual)).load place.disk = .ok kept)
      (h : invocation.command.Escapes conventions (invocation.keptIn usual) kept
        (invocation.workplace usual place) fault) : Escapes conventions usual place invocation fault

/-! ## Settings -/

theorem loadEscapes_of_ofText {disk : Disk} {text : List Char} (htext : disk.readText path = .ok text)
    (h : Settings.ofText path text = .error fault) (hfault : isSettingsFault fault = false) :
    LoadEscapes disk path fault := by
  unfold Settings.ofText at h
  split at h
  · rename_i digits hread
    obtain rfl := Except.error.inj h
    exact .longInteger htext hread
  · rename_i container hread
    obtain rfl := Except.error.inj h
    exact .deepNesting htext hread
  · obtain rfl := Except.error.inj h
    cases hfault
  · rename_i members hread
    split at h
    · obtain rfl := Except.error.inj h
      cases hfault
    · rename_i hmembers
      obtain rfl := Except.error.inj h
      exact .hugeTimeLimit htext hread hmembers
    · cases h
  · obtain rfl := Except.error.inj h
    cases hfault

theorem loadEscapes_iff {disk : Disk} :
    LoadEscapes disk path fault ↔
      (Settings.Keeper.file path).load disk = .error fault ∧ isSettingsFault fault = false := by
  constructor
  · intro h
    cases h with
    | tooLong h =>
      have hhas : disk.has path = .error (Disk.faultAt path .tooLong) :=
        (Disk.map_find_eq_error_iff _).mpr ⟨h, rfl⟩
      exact ⟨by simp only [Settings.Keeper.load, hhas], rfl⟩
    | longInteger htext h => exact ⟨by simp only [load_of_readText htext, Settings.ofText, h], rfl⟩
    | deepNesting htext h => exact ⟨by simp only [load_of_readText htext, Settings.ofText, h], rfl⟩
    | hugeTimeLimit htext hread h =>
      exact ⟨by simp only [load_of_readText htext, Settings.ofText, hread, h], rfl⟩
  · rintro ⟨h, hfault⟩
    cases htext : disk.readText path with
    | ok text => exact loadEscapes_of_ofText htext (load_of_readText htext ▸ h) hfault
    | error reason =>
      rw [Settings.Keeper.load] at h
      split at h
      · rename_i refused hhas
        obtain rfl := Except.error.inj h
        obtain ⟨hlong, rfl⟩ := (Disk.map_find_eq_error_iff _).mp hhas
        exact .tooLong hlong
      · cases h
      · rw [htext] at h
        obtain rfl := Except.error.inj h
        cases hfault

theorem exists_unwritable {disk : Disk} {settings : Settings}
    (h : (Settings.Store.writeFile disk path settings).2 = some fault) :
    ∃ refused, fault = Settings.Store.unwritable path refused := by
  unfold Settings.Store.writeFile at h
  split at h
  · exact ⟨_, (Option.some.inj h).symm⟩
  · split at h
    · exact ⟨_, (Option.some.inj h).symm⟩
    · cases h

theorem isActionFault_of_writeFile {disk : Disk} {settings : Settings}
    (h : (Settings.Store.writeFile disk path settings).2 = some fault) :
    isActionFault fault = isSettingsFault fault := by
  obtain ⟨refused, rfl⟩ := exists_unwritable h
  cases refused <;> rfl

theorem keepEscapes_iff {disk : Disk} {settings : Settings} :
    KeepEscapes disk path settings fault ↔
      (Settings.Store.writeFile disk path settings).2 = some fault ∧ isSettingsFault fault = false := by
  constructor
  · rintro (h | h)
    · exact ⟨congrArg Prod.snd h, rfl⟩
    · exact ⟨congrArg Prod.snd h, rfl⟩
  · rintro ⟨h, hfault⟩
    obtain ⟨refused, rfl⟩ := exists_unwritable h
    cases refused with
    | system refused => cases hfault
    | nullName => exact .nullName (Prod.ext rfl h)
    | deep => exact .deepPath (Prod.ext rfl h)

/-! ## Reporting -/

theorem not_fails_giveUp (line : String) (status : Int) : ¬ Fails (giveUp line status) place fault :=
  fun h => nomatch h

/-- Only what is not reported is left to fail with. The commands that work with settings or tools
are wrapped in `reporting`, so what escapes from one is found by this. -/
theorem fails_reporting_iff {reported : Fault → Bool} {status : Int} {act : Work Int} :
    Fails (reporting reported status act) place fault ↔
      Fails act place fault ∧ reported fault = false := by
  unfold Fails reporting
  rw [runAt_tryCatch]
  cases hrun : runAt act place with
  | mk result place' =>
    cases result with
    | ok a => simp
    | error met =>
      simp only
      split
      · rename_i hreported
        -- A fault that is reported becomes a status.
        have hgiven : (runAt (do complain met.message; return status) place').1 = .ok status := rfl
        rw [hgiven]
        constructor
        · exact fun h => nomatch h
        · rintro ⟨hmet, hunreported⟩
          obtain rfl := Except.error.inj hmet
          rw [hreported] at hunreported
          cases hunreported
      · rename_i hreported
        rw [runAt_throw]
        constructor
        · intro hmet
          obtain rfl := Except.error.inj hmet
          exact ⟨rfl, Bool.eq_false_of_not_eq_true hreported⟩
        · exact fun h => h.1

/-! ## Documents -/

theorem documentOf?_eq_error_iff {disk : Disk} {file : String} :
    documentOf? disk file = .error fault ↔
      disk.TooLong (.ofString file) ∧ fault = .system (Disk.faultAt (.ofString file) .tooLong) := by
  unfold documentOf?
  cases hfound : disk.hasFile (.ofString file) with
  | error refused =>
    obtain ⟨hlong, rfl⟩ := (Disk.map_find_eq_error_iff _).mp hfound
    exact ⟨fun h => ⟨hlong, (Except.error.inj h).symm⟩, fun h => congrArg Except.error h.2.symm⟩
  | ok found =>
    have hshort : ¬ disk.TooLong (.ofString file) := fun hlong => by
      cases hfound.symm.trans ((Disk.map_find_eq_error_iff _).mpr ⟨hlong, rfl⟩)
    cases found with
    | false => simp [hshort]
    | true =>
      cases Document.load disk (.ofString file) with
      | error reason => simp [hshort]
      | ok document => simp [hshort]

/-- A command on a file fails with what the file argument fails with, or with what it does with the
document. `documentOf?` is the document, if there is one. -/
theorem fails_withDocument_iff {file : String} {act : Document → Work Int} :
    Fails (withDocument file act) place fault ↔
      (place.disk.TooLong (.ofString file) ∧
        fault = .system (Disk.faultAt (.ofString file) .tooLong)) ∨
      ∃ document, documentOf? place.disk file = .ok (some document) ∧
        Fails (act document) place fault := by
  have hrun := runAt_withDocument file act place
  rw [← documentOf?_eq_error_iff]
  unfold Fails
  cases hdocument : documentOf? place.disk file with
  | error met =>
    rw [hdocument] at hrun
    simp only at hrun
    rw [hrun]
    simp
  | ok found =>
    rw [hdocument] at hrun
    cases found with
    | none =>
      obtain ⟨console, hrun⟩ := hrun
      rw [hrun]
      simp
    | some document =>
      simp only at hrun
      rw [hrun]
      simp

/-! ## The gate -/

/-- The gate fails only where somebody is asked: the input ends before an answer, or the answer
cannot be kept. The second is `KeepEscapes`, without the faults that are reported. -/
theorem readied_eq_error_iff {document : Document} {answer : Option Consent.Choice}
    {input : List (List Char)} {disk : Disk}
    (hread : disk.readText document.path = .ok document.text) :
    (readied path kept document answer input disk).result = .error fault ∧
        isActionFault fault = false ↔
      ∃ saved, disk.writeText document.path document.text = .ok saved ∧
        Consent.needed kept.redefinitionCheck document.redefinitions = true ∧
        (reply answer input = none ∧ fault = .endOfInput ∨
          reply answer input = some .neverAsk ∧
            KeepEscapes saved path (kept.withRedefinitionCheck false) fault) := by
  unfold readied
  rcases Disk.writeText_of_readText hread document.text with ⟨saved, hsave⟩ | ⟨refused, hsave⟩
  · rw [hsave]
    simp only [Except.ok.injEq, exists_eq_left']
    -- Said of the ruling: there is none, or it silences the question.
    rw [and_or_left, ← and_assoc, ← and_assoc, ← ruling_eq_none_iff, ← ruling_eq_suppress_iff]
    cases ruling kept document answer input with
    | none =>
      constructor
      · rintro ⟨h, -⟩
        exact Or.inl ⟨rfl, (Except.error.inj h).symm⟩
      · rintro (⟨-, rfl⟩ | ⟨h, -⟩)
        · exact ⟨rfl, rfl⟩
        · cases h
    | some verdict =>
      cases verdict with
      | abort => simp
      | proceed => simp
      | proceedAndSuppress =>
        simp only [reduceCtorEq, false_and, false_or, true_and, keepEscapes_iff]
        cases hwrite : Settings.Store.writeFile saved path (kept.withRedefinitionCheck false) with
        | mk silenced met =>
          cases met with
          | none => simp
          | some met =>
            have hmet := isActionFault_of_writeFile (congrArg Prod.snd hwrite)
            simp only [Except.error.injEq, Option.some.injEq]
            exact and_congr_right fun hsame => by rw [← hsame, hmet]
  · rw [hsave]
    constructor
    · rintro ⟨h, hfault⟩
      obtain rfl := Except.error.inj h
      cases hfault
    · rintro ⟨saved, h, -⟩
      cases h

theorem programs_of_readied {document : Document} {answer : Option Consent.Choice}
    {input : List (List Char)} {disk : Disk} {settings : Settings}
    (h : (readied path kept document answer input disk).result = .ok (some settings)) :
    settings.compiler = kept.compiler ∧ settings.runner = kept.runner := by
  unfold readied at h
  split at h
  · cases h
  · split at h
    · cases h
    · cases h
    · cases h
      exact ⟨rfl, rfl⟩
    · split at h
      · cases h
      · cases h
        exact ⟨rfl, rfl⟩

theorem program?_overlay {store : Settings.Store} {settings : Settings}
    (h : settings.compiler = kept.compiler ∧ settings.runner = kept.runner) (command : Command) :
    command.program? (store.overlay settings) = command.program? (store.overlay kept) := by
  obtain ⟨hcompiler, hrunner⟩ := h
  unfold Settings.Store.overlay
  cases store.compiler with
  | none => cases command <;> simp only [Command.program?, hcompiler, hrunner]
  | some compiler => cases command <;> simp only [Command.program?, hrunner]

theorem runner_overlay {store : Settings.Store} {settings : Settings}
    (h : settings.compiler = kept.compiler ∧ settings.runner = kept.runner) :
    (store.overlay settings).runner = (store.overlay kept).runner :=
  Option.some.inj (program?_overlay h (.run "" none))

/-! ## Tools -/

theorem fails_words_iff {setting : WideText} :
    Fails (Tool.words setting) place fault ↔
      ∃ refused, ShellWords.split setting = .error refused ∧ fault = .words refused := by
  unfold Tool.words
  cases ShellWords.split setting with
  | ok words => simp [fails_pure_iff]
  | error refused => simp [fails_throw_iff, eq_comm]

/-- What is done behind an action plays no part in what escapes from it, if it fails with reported
faults alone. It is `fails_bind_iff` with the second way cut off. -/
theorem escapes_bind_iff {α β : Type} {work : Work α} {next : α → Work β}
    (hnext : ∀ a, FailsOnly (isActionFault · = true) (next a)) :
    Fails (work >>= next) place fault ∧ isActionFault fault = false ↔
      Fails work place fault ∧ isActionFault fault = false := by
  refine and_congr_left fun hfault => ?_
  rw [fails_bind_iff]
  constructor
  · rintro (h | ⟨a, place', -, h⟩)
    · exact h
    · cases hfault.symm.trans (hnext a place' fault h)
  · exact Or.inl

theorem failsOnly_judged (task : Tool.Task) (launched : Tool.Launch) (limit : Binary64)
    (outcome : Tool.Outcome) :
    FailsOnly (isActionFault · = true)
      (match Tool.judge task launched limit outcome with
        | .ok complaint => return complaint
        | .error fault => throw (.tool fault) : Work String) := by
  split
  · exact .pure _
  · exact .throw rfl

theorem fails_capture_iff {settings : Settings} {task : Tool.Task} {arguments : List WideText} :
    Fails (Tool.capture settings task arguments) place fault ∧ isActionFault fault = false ↔
      ∃ refused, ShellWords.split settings.compiler = .error refused ∧ fault = .words refused := by
  refine (escapes_bind_iff fun program => .bind (.launch _) (failsOnly_judged _ _ _)).trans ?_
  rw [fails_words_iff]
  constructor
  · exact fun h => h.1
  · rintro ⟨refused, hwords, rfl⟩
    exact ⟨⟨refused, hwords, rfl⟩, rfl⟩

/-- Of a captured tool, only that its setting cannot be cut into words escapes: that it cannot be
started, takes too long, fails or complains is a fault of the tool, and reported. `compile` and
`check` are both of this form. -/
theorem fails_captured_iff {settings : Settings} {task : Tool.Task} {arguments : List WideText}
    {judge : String → Work Tool.Product} {finish : Tool.Product → Work Int}
    (hjudge : ∀ complaint, FailsOnly (isActionFault · = true) (judge complaint))
    (hfinish : ∀ product, FailsOnly (isActionFault · = true) (finish product)) :
    Fails (Tool.capture settings task arguments >>= judge >>= finish) place fault ∧
        isActionFault fault = false ↔
      ∃ refused, ShellWords.split settings.compiler = .error refused ∧ fault = .words refused := by
  rw [escapes_bind_iff hfinish, escapes_bind_iff hjudge, fails_capture_iff]

theorem fails_compile_iff {settings : Settings} {source : Path} {finish : Tool.Product → Work Int}
    (hfinish : ∀ product, FailsOnly (isActionFault · = true) (finish product)) :
    Fails (Tool.compile settings source >>= finish) place fault ∧ isActionFault fault = false ↔
      ∃ refused, ShellWords.split settings.compiler = .error refused ∧ fault = .words refused := by
  refine fails_captured_iff (fun complaint => ?_) hfinish
  split
  · exact .pure _
  · exact .throw rfl

theorem fails_check_iff {settings : Settings} {source : Path} {finish : Tool.Product → Work Int}
    (hfinish : ∀ product, FailsOnly (isActionFault · = true) (finish product)) :
    Fails (Tool.check settings source >>= finish) place fault ∧ isActionFault fault = false ↔
      ∃ refused, ShellWords.split settings.compiler = .error refused ∧ fault = .words refused := by
  refine fails_captured_iff (fun complaint => ?_) hfinish
  split
  · exact .pure _
  · exact .throw rfl

/-- Of the runner, it escapes too that it does not come to an end. The runner has no time limit, so
that is `Outcome.endless`. -/
theorem fails_run_iff {settings : Settings} {source : Path} {finish : Int → Work Int}
    (hfinish : ∀ status, FailsOnly (isActionFault · = true) (finish status)) :
    Fails (Tool.run settings source >>= finish) place fault ∧ isActionFault fault = false ↔
      (∃ refused, ShellWords.split settings.runner = .error refused ∧ fault = .words refused) ∨
      ∃ words, ShellWords.split settings.runner = .ok words ∧ place.tools = .endless ∧
        fault = .endlessRun (words ++ [.ofString source.toString]) := by
  rw [escapes_bind_iff hfinish]
  unfold Tool.run Tool.words
  cases ShellWords.split settings.runner with
  | error refused =>
    simp only [fails_bind_iff, fails_throw_iff, runAt_throw]
    constructor
    · rintro ⟨h | ⟨a, place', h, -⟩, -⟩
      · exact Or.inl ⟨refused, rfl, h.symm⟩
      · cases h
    · rintro (⟨refused', h, rfl⟩ | ⟨words, h, -⟩)
      · cases h
        exact ⟨Or.inl rfl, rfl⟩
      · cases h
  | ok words =>
    unfold Fails
    simp only [pure_bind]
    rw [runAt_bind_ok (runAt_launch _ _)]
    cases place.tools with
    | finished status errors => simp [runAt_pure]
    | refused refusal =>
      constructor
      · rintro ⟨h, hfault⟩
        obtain rfl := Except.error.inj h
        cases hfault
      · simp
    | endless =>
      constructor
      · rintro ⟨h, -⟩
        exact Or.inr ⟨words, rfl, rfl, (Except.error.inj h).symm⟩
      · rintro (⟨refused, h, -⟩ | ⟨words', h, -, rfl⟩)
        · cases h
        · cases h
          exact ⟨rfl, rfl⟩

end Cli
end SpiceKit
