import SpiceKit.Proofs.Cli.Escape
import SpiceKit.Proofs.Workspace

/-!
# With what a command line ends

The parts of a command are put together: **a command line ends with a status unless one of the
faults that are listed for its command escapes, and each of them does** (`Cli.execute_ends`).

`Command.Escapes` lists the faults of each command. A lemma for each part of a command
(`fails_lint_of_escapes`, `fails_guarded_iff`, `fails_look_iff`) says with which of them it fails,
as an equivalence, so the parts can be chained by `fails_bind_iff`. Of the conventions it is assumed
that reading a pattern file fails with nothing but a fault of pattern files (`Workspace.Plain`); the
title of a report is theirs, and where showing it fails is part of the list.
-/

set_option autoImplicit false

namespace SpiceKit
namespace Cli

open Work SpiceKit.Action

variable {ρ : Type} {conventions : Conventions ρ} {place : Workplace} {path : Path}
  {kept : Settings} {fault : Fault}

/-! ## Lint -/

theorem fails_bind_of_total {α β : Type} {work : Work α} {next : α → Work β} {holds : Prop}
    (htotal : ∀ met, ¬ Fails work place met)
    (hnext : ∀ a place', Fails (next a) place' fault ↔ holds) :
    Fails (work >>= next) place fault ↔ holds := by
  cases hrun : runAt work place with
  | mk result place' =>
    cases result with
    | error met => exact absurd (congrArg Prod.fst hrun) (htotal met)
    | ok a =>
      unfold Fails
      rw [runAt_bind_ok hrun]
      exact hnext a place'

theorem not_fails_complaints (failures : List Workspace.Failure) (met : Fault) :
    ¬ Fails (failures.forM fun failure => complain (failureLine failure)) place met := by
  have hnone : FailsOnly (fun _ => False)
      (failures.forM fun failure => complain (failureLine failure)) :=
    .forM (fun _ => .complain _) failures
  exact fun h => hnone place met h

theorem fails_showReport_iff {report : Workspace.Report} :
    Fails (showReport conventions report) place fault ↔
      ∃ refused, conventions.title report.path = .error refused ∧ fault = .markup refused := by
  unfold showReport
  cases conventions.title report.path with
  | ok title => exact ⟨(fun h => nomatch h), fun ⟨_, h, _⟩ => nomatch h⟩
  | error refused =>
    rw [fails_throw_iff]
    constructor
    · rintro rfl
      exact ⟨refused, rfl, rfl⟩
    · rintro ⟨refused', h, rfl⟩
      cases h
      rfl

theorem exists_runAt_showReport_iff {report : Workspace.Report} :
    (∃ place', runAt (showReport conventions report) place = (.ok (), place')) ↔
      ∃ title, conventions.title report.path = .ok title := by
  unfold showReport
  cases conventions.title report.path with
  | ok title => exact ⟨fun _ => ⟨title, rfl⟩, fun _ => ⟨_, rfl⟩⟩
  | error refused => exact ⟨(fun ⟨_, h⟩ => nomatch h), (fun ⟨_, h⟩ => nomatch h)⟩

/-- Reports are shown up to the first whose path is no markup. Those before it are shown, and leave
a workplace that differs in its console. -/
theorem fails_showReports_iff {reports : List Workspace.Report} :
    Fails (reports.forM (showReport conventions)) place fault ↔
      ∃ before report later refused, reports = before ++ report :: later ∧
        (∀ other ∈ before, ∃ title, conventions.title other.path = .ok title) ∧
        conventions.title report.path = .error refused ∧ fault = .markup refused := by
  induction reports generalizing place with
  | nil => simp [fails_pure_iff]
  | cons first reports ih =>
    have hcons : (first :: reports).forM (showReport conventions) =
        (showReport conventions first >>= fun _ => reports.forM (showReport conventions)) := rfl
    rw [hcons, fails_bind_iff, fails_showReport_iff]
    constructor
    · rintro (⟨refused, htitle, rfl⟩ | ⟨_, place', hshown, h⟩)
      · exact ⟨[], first, reports, refused, rfl, nofun, htitle, rfl⟩
      · obtain ⟨before, report, later, refused, rfl, hbefore, htitle, rfl⟩ := ih.mp h
        have hfirst := exists_runAt_showReport_iff.mp ⟨place', hshown⟩
        exact ⟨first :: before, report, later, refused, rfl,
          List.forall_mem_cons.mpr ⟨hfirst, hbefore⟩, htitle, rfl⟩
    · rintro ⟨before, report, later, refused, hsplit, hbefore, htitle, rfl⟩
      cases before with
      | nil =>
        obtain ⟨rfl, rfl⟩ := List.cons.inj hsplit
        exact Or.inl ⟨refused, htitle, rfl⟩
      | cons other before =>
        obtain ⟨rfl, rfl⟩ := List.cons.inj hsplit
        obtain ⟨hfirst, hbefore⟩ := List.forall_mem_cons.mp hbefore
        obtain ⟨place', hshown⟩ := exists_runAt_showReport_iff.mpr hfirst
        exact Or.inr ⟨(), place', hshown,
          ih.mpr ⟨before, report, later, refused, rfl, hbefore, htitle, rfl⟩⟩

theorem fails_showSurvey_iff {reports : List Workspace.Report} {failures : List Workspace.Failure}
    {format : Format} :
    Fails (do
        failures.forM fun failure => complain (failureLine failure)
        showSurvey conventions reports failures format
        return (0 : Int)) place fault ↔
      format = .table ∧ ∃ before report later refused, reports = before ++ report :: later ∧
        (∀ other ∈ before, ∃ title, conventions.title other.path = .ok title) ∧
        conventions.title report.path = .error refused ∧ fault = .markup refused := by
  refine fails_bind_of_total (not_fails_complaints failures) fun _ place' => ?_
  have hshown :
      Fails (showSurvey conventions reports failures format >>= fun _ => pure (0 : Int)) place'
          fault ↔
        Fails (showSurvey conventions reports failures format) place' fault := by
    rw [fails_bind_iff]
    exact ⟨fun h => h.elim id fun ⟨_, _, _, h⟩ => (fails_pure_iff.mp h).elim, Or.inl⟩
  rw [hshown]
  cases format with
  | table => simp only [showSurvey, fails_showReports_iff, true_and]
  | json => exact ⟨(fun h => nomatch h), (fun h => nomatch h.1)⟩

theorem escapes_of_fails_lint (hplain : Workspace.Plain conventions.patterns)
    {folder : String} {format : Format}
    (h : Fails (lint conventions (.ofString folder) format) place fault) :
    (Command.lint folder format).Escapes conventions path kept place fault := by
  unfold Fails lint at h
  rw [runAt_bind_ok (runAt_get place)] at h
  simp only at h
  cases hthere : place.disk.has (.ofString folder) with
  | error refused =>
    obtain ⟨hlong, rfl⟩ := (Disk.map_find_eq_error_iff _).mp hthere
    rw [hthere] at h
    obtain rfl := Except.error.inj h
    exact .tooLong rfl hlong
  | ok found =>
    simp only [hthere, orFault, pure_bind] at h
    cases found with
    | false => exact absurd h (not_fails_giveUp _ _)
    | true =>
      simp only [if_true] at h
      cases hsurvey : Workspace.surveyBy conventions.patterns place.disk (.ofString folder) with
      | error met =>
        rw [hsurvey] at h
        -- Of the faults with which a survey can end, the first is reported.
        cases Workspace.faultsOnly_survey hplain hthere met hsurvey with
        | unreadable reason => exact absurd h (not_fails_giveUp _ _)
        | pattern line =>
          obtain rfl := Except.error.inj h
          exact .pattern hthere hsurvey
        | reversed range =>
          obtain rfl := Except.error.inj h
          exact .reversedRange hthere hsurvey
      | ok survey =>
        obtain ⟨reports, failures⟩ := survey
        rw [hsurvey] at h
        obtain ⟨rfl, before, report, later, refused, rfl, hbefore, htitle, rfl⟩ :=
          fails_showSurvey_iff.mp h
        exact .markup hthere hsurvey hbefore htitle

theorem fails_lint_of_escapes {folder : String} {format : Format}
    (h : (Command.lint folder format).Escapes conventions path kept place fault) :
    Fails (lint conventions (.ofString folder) format) place fault := by
  unfold Fails lint
  rw [runAt_bind_ok (runAt_get place)]
  simp only
  cases h with
  | tooLong hsource hlong =>
    cases hsource
    have hthere : place.disk.has (.ofString folder) = .error _ :=
      (Disk.map_find_eq_error_iff _).mpr ⟨hlong, rfl⟩
    rw [hthere]
    rfl
  | pattern hthere hsurvey =>
    simp only [hthere, orFault, pure_bind, if_true, hsurvey]
    rfl
  | reversedRange hthere hsurvey =>
    simp only [hthere, orFault, pure_bind, if_true, hsurvey]
    rfl
  | markup hthere hsurvey hbefore htitle =>
    simp only [hthere, orFault, pure_bind, if_true, hsurvey]
    exact fails_showSurvey_iff.mpr ⟨rfl, _, _, _, _, rfl, hbefore, htitle, rfl⟩
  | endOfInput hguarded => cases hguarded
  | unkept hguarded => cases hguarded
  | words _ hprogram => cases hprogram

/-! ## Commands on a file -/

/-- A command that may ask for consent fails with what the gate fails with, or behind the gate. What
escapes from the tool is `escaped`. -/
theorem fails_guarded_iff {α : Type} {document : Document} {answer : Option Consent.Choice}
    {act : Settings → Path → Work α} {finish : Option α → Work Int} (escaped : Settings → Prop)
    (hnone : ∀ moment, ¬ Fails (finish none) moment fault)
    (hact : ∀ settings moment, moment.tools = place.tools →
      (Fails (act settings document.path >>= fun a => finish (some a)) moment fault ∧
        isActionFault fault = false ↔ escaped settings))
    (hkeeper : place.store.keeper = .file path)
    (hkept : (Settings.Keeper.file path).load place.disk = .ok kept)
    (hread : place.disk.readText document.path = .ok document.text) :
    Fails (do
        answeredBy answer
        reporting isActionFault 1 (withConsent document act >>= finish)) place fault ↔
      ((readied path kept document answer place.console.input place.disk).result = .error fault ∧
        isActionFault fault = false) ∨
      ∃ settings, (readied path kept document answer place.console.input place.disk).result =
        .ok (some settings) ∧ escaped (place.store.overlay settings) := by
  -- The gate comes out in one of three ways, and only settings let the tool start.
  obtain ⟨console, hrun⟩ := runAt_consented { place with person := .console answer } act finish
    hkeeper rfl hkept hread rfl
  have hanswered : Fails (do
        answeredBy answer
        reporting isActionFault 1 (withConsent document act >>= finish)) place fault ↔
      Fails (withConsent document act >>= finish) { place with person := .console answer } fault ∧
        isActionFault fault = false := fails_reporting_iff
  rw [hanswered, Fails, hrun]
  cases hresult : (readied path kept document answer place.console.input place.disk).result with
  | error met => simp
  | ok found =>
    cases found with
    | none =>
      constructor
      · exact fun h => absurd h.1 (hnone _)
      · simp
    | some settings =>
      simp only [reduceCtorEq, false_and, false_or, Except.ok.injEq, Option.some.injEq,
        exists_eq_left']
      exact hact _ _ rfl

theorem path?_of_guarded? {command : Command} {file : String} {answer : Option Consent.Choice}
    (h : command.guarded? = some (file, answer)) : command.path? = some (.ofString file) := by
  cases command with
  | compile => cases h; rfl
  | run => cases h; rfl
  | _ => cases h

/-- What escapes from the program that a command starts on a document, by the settings that name it.
The settings are those that the gate hands over, and differ from the kept ones in the warning alone. -/
def Command.ProgramEscapes (place : Workplace) (document : Document) (settings : Settings)
    (command : Command) (fault : Fault) : Prop :=
  (∃ program refused, command.program? settings = some program ∧
    ShellWords.split program = .error refused ∧ fault = .words refused) ∨
  ∃ file answer words, command = .run file answer ∧ ShellWords.split settings.runner = .ok words ∧
    place.tools = .endless ∧ fault = .endlessRun (words ++ [.ofString document.path.toString])

theorem Command.Escapes.of_gate {command : Command} {file : String} {answer : Option Consent.Choice}
    {document : Document} (hguarded : command.guarded? = some (file, answer))
    (hdocument : documentOf? place.disk file = .ok (some document))
    (hgate : (readied path kept document answer place.console.input place.disk).result = .error fault)
    (hfault : isActionFault fault = false) : command.Escapes conventions path kept place fault := by
  obtain ⟨saved, hsave, hneeded, hrefused⟩ :=
    (readied_eq_error_iff (documentOf?_eq_some hdocument).2).mp ⟨hgate, hfault⟩
  rcases hrefused with ⟨hinput, rfl⟩ | ⟨hnever, hkeep⟩
  · exact .endOfInput hguarded hdocument hsave hneeded hinput
  · exact .unkept hguarded hdocument hsave hneeded hnever hkeep

theorem Command.Escapes.of_program {command : Command} {file : String}
    {answer : Option Consent.Choice} {document : Document} {settings : Settings}
    (hguarded : command.guarded? = some (file, answer))
    (hdocument : documentOf? place.disk file = .ok (some document))
    (hgate : (readied path kept document answer place.console.input place.disk).result =
      .ok (some settings))
    (h : command.ProgramEscapes place document (place.store.overlay settings) fault) :
    command.Escapes conventions path kept place fault := by
  have hstarts : command.Starts path kept place := .guarded hguarded hdocument hgate
  -- Consent may change the settings, but not the programs that they name.
  have hprograms := programs_of_readied hgate
  rcases h with ⟨program, refused, hprogram, hwords, rfl⟩ | ⟨file, answer, words, rfl, hwords, htools, rfl⟩
  · exact .words hstarts (program?_overlay hprograms command ▸ hprogram) hwords
  · rw [runner_overlay hprograms] at hwords
    cases hguarded
    rw [(documentOf?_eq_some hdocument).1]
    exact .endless hstarts hwords htools

/-- **With what a command that may ask for consent can end but a status**: its file argument, the
gate, or the program behind the gate. The three ways are put into `Command.Escapes` by `of_gate` and
`of_program`. -/
theorem escapes_guarded_iff {command : Command} {file : String} {answer : Option Consent.Choice}
    (hguarded : command.guarded? = some (file, answer)) :
    command.Escapes conventions path kept place fault ↔
      (place.disk.TooLong (.ofString file) ∧
        fault = .system (Disk.faultAt (.ofString file) .tooLong)) ∨
      ∃ document, documentOf? place.disk file = .ok (some document) ∧
        (((readied path kept document answer place.console.input place.disk).result = .error fault ∧
            isActionFault fault = false) ∨
          ∃ settings, (readied path kept document answer place.console.input place.disk).result =
              .ok (some settings) ∧
            command.ProgramEscapes place document (place.store.overlay settings) fault) := by
  constructor
  · intro h
    cases h with
    | tooLong hsource hlong =>
      cases hsource.symm.trans (path?_of_guarded? hguarded)
      exact Or.inl ⟨hlong, rfl⟩
    | pattern => cases hguarded
    | reversedRange => cases hguarded
    | markup => cases hguarded
    | endOfInput hguarded' hdocument hsave hneeded hinput =>
      cases hguarded.symm.trans hguarded'
      have hread := (documentOf?_eq_some hdocument).2
      exact Or.inr ⟨_, hdocument, Or.inl ((readied_eq_error_iff hread).mpr
        ⟨_, hsave, hneeded, Or.inl ⟨hinput, rfl⟩⟩)⟩
    | unkept hguarded' hdocument hsave hneeded hnever hkeep =>
      cases hguarded.symm.trans hguarded'
      have hread := (documentOf?_eq_some hdocument).2
      exact Or.inr ⟨_, hdocument, Or.inl ((readied_eq_error_iff hread).mpr
        ⟨_, hsave, hneeded, Or.inr ⟨hnever, hkeep⟩⟩)⟩
    | words hstarts hprogram hwords =>
      cases hstarts with
      | check => cases hguarded
      | guarded hguarded' hdocument hresult =>
        cases hguarded.symm.trans hguarded'
        rw [← program?_overlay (programs_of_readied hresult)] at hprogram
        exact Or.inr ⟨_, hdocument, Or.inr ⟨_, hresult, Or.inl ⟨_, _, hprogram, hwords, rfl⟩⟩⟩
    | endless hstarts hwords htools =>
      cases hguarded
      cases hstarts with
      | guarded hguarded' hdocument hresult =>
        cases hguarded'
        rw [← runner_overlay (programs_of_readied hresult)] at hwords
        refine Or.inr ⟨_, hdocument, Or.inr ⟨_, hresult, Or.inr ⟨_, _, _, rfl, hwords, htools, ?_⟩⟩⟩
        rw [(documentOf?_eq_some hdocument).1]
    | restoreWarning => cases hguarded
  · rintro (⟨hlong, rfl⟩ | ⟨document, hdocument, ⟨hgate, hfault⟩ | ⟨settings, hgate, hprogram⟩⟩)
    · exact .tooLong (path?_of_guarded? hguarded) hlong
    · exact .of_gate hguarded hdocument hgate hfault
    · exact .of_program hguarded hdocument hgate hprogram

variable (hkeeper : place.store.keeper = .file path)
  (hkept : (Settings.Keeper.file path).load place.disk = .ok kept)

include hkeeper hkept

theorem fails_compile_command_iff {file : String} {answer : Option Consent.Choice} :
    Fails (perform conventions (.compile file answer)) place fault ↔
      (Command.compile file answer).Escapes conventions path kept place fault := by
  rw [escapes_guarded_iff rfl, perform, fails_withDocument_iff]
  refine or_congr_right (exists_congr fun document => and_congr_right fun hdocument => ?_)
  refine fails_guarded_iff
    (fun settings => (Command.compile file answer).ProgramEscapes place document settings fault)
    (fun _ => not_fails_giveUp _ _) (fun settings moment _ => ?_) hkeeper hkept
    (documentOf?_eq_some hdocument).2
  rw [fails_compile_iff fun product => .bind (.display _) fun _ => .pure _]
  simp [Command.ProgramEscapes, Command.program?]

theorem fails_run_command_iff {file : String} {answer : Option Consent.Choice} :
    Fails (perform conventions (.run file answer)) place fault ↔
      (Command.run file answer).Escapes conventions path kept place fault := by
  rw [escapes_guarded_iff rfl, perform, fails_withDocument_iff]
  refine or_congr_right (exists_congr fun document => and_congr_right fun hdocument => ?_)
  refine fails_guarded_iff
    (fun settings => (Command.run file answer).ProgramEscapes place document settings fault)
    (fun _ => not_fails_giveUp _ _) (fun settings moment htools => ?_) hkeeper hkept
    (documentOf?_eq_some hdocument).2
  rw [fails_run_iff fun _ => .pure _, htools]
  simp [Command.ProgramEscapes, Command.program?]

theorem fails_checked_iff {document : Document}
    (hread : place.disk.readText document.path = .ok document.text) :
    Fails (reporting isActionFault 1 (check document)) place fault ↔
      ∃ saved, place.disk.writeText document.path document.text = .ok saved ∧
        ∃ refused, ShellWords.split (place.store.overlay kept).compiler = .error refused ∧
          fault = .words refused := by
  rw [fails_reporting_iff, Fails, runAt_check hkeeper hkept hread]
  rcases Disk.writeText_of_readText hread document.text with ⟨saved, hsave⟩ | ⟨refused, hsave⟩
  · rw [hsave]
    simp only [Except.ok.injEq, exists_eq_left']
    exact fails_check_iff fun product => .bind (.display _) fun _ => .pure _
  · rw [hsave]
    constructor
    · rintro ⟨h, hfault⟩
      obtain rfl := Except.error.inj h
      cases hfault
    · rintro ⟨saved, h, -⟩
      cases h

theorem fails_check_command_iff {file : String} :
    Fails (perform conventions (.check file)) place fault ↔
      (Command.check file).Escapes conventions path kept place fault := by
  rw [perform, fails_withDocument_iff]
  constructor
  · rintro (⟨hlong, rfl⟩ | ⟨document, hdocument, hfails⟩)
    · exact .tooLong rfl hlong
    · obtain ⟨saved, hsave, refused, hwords, rfl⟩ :=
        (fails_checked_iff hkeeper hkept (documentOf?_eq_some hdocument).2).mp hfails
      exact .words (.check hdocument hsave) rfl hwords
  · intro h
    cases h with
    | tooLong hsource hlong =>
      cases hsource
      exact Or.inl ⟨hlong, rfl⟩
    | endOfInput hguarded => cases hguarded
    | unkept hguarded => cases hguarded
    | words hstarts hprogram hwords =>
      cases hprogram
      cases hstarts with
      | guarded hguarded => cases hguarded
      | check hdocument hsave =>
        exact Or.inr ⟨_, hdocument, (fails_checked_iff hkeeper hkept
          (documentOf?_eq_some hdocument).2).mpr ⟨_, hsave, _, hwords, rfl⟩⟩

theorem fails_restoreWarning_iff :
    Fails (perform conventions .restoreWarning) place fault ↔
      Command.restoreWarning.Escapes conventions path kept place fault := by
  have hkeeps : Fails (perform conventions .restoreWarning) place fault ↔
      KeepEscapes place.disk path (kept.withRedefinitionCheck true) fault := by
    obtain ⟨console, hrun⟩ := runAt_restoreWarning hkeeper hkept
    rw [perform, fails_reporting_iff, keepEscapes_iff, Fails, hrun]
    refine and_congr_left fun _ => ?_
    cases Settings.Store.writeFile place.disk path (kept.withRedefinitionCheck true) with
    | mk restored met => cases met <;> simp
  rw [hkeeps]
  constructor
  · exact .restoreWarning
  · intro h
    cases h with
    | tooLong hsource => cases hsource
    | endOfInput hguarded => cases hguarded
    | unkept hguarded => cases hguarded
    | words _ hprogram => cases hprogram
    | restoreWarning h => exact h

omit hkeeper hkept

theorem escapes_look_iff {command : Command} {file : String}
    (hlook : (∃ format, command = .outline file format) ∨
      ∃ line column, command = .definition file line column) :
    command.Escapes conventions path kept place fault ↔ place.disk.TooLong (.ofString file) ∧
      fault = .system (Disk.faultAt (.ofString file) .tooLong) := by
  have hpath : command.path? = some (.ofString file) := by
    rcases hlook with ⟨format, rfl⟩ | ⟨line, column, rfl⟩ <;> rfl
  have hguarded : command.guarded? = none := by
    rcases hlook with ⟨format, rfl⟩ | ⟨line, column, rfl⟩ <;> rfl
  have hprogram (settings : Settings) : command.program? settings = none := by
    rcases hlook with ⟨format, rfl⟩ | ⟨line, column, rfl⟩ <;> rfl
  constructor
  · intro h
    cases h with
    | tooLong hsource hlong =>
      cases hsource.symm.trans hpath
      exact ⟨hlong, rfl⟩
    | endOfInput hguarded' => cases hguarded.symm.trans hguarded'
    | unkept hguarded' => cases hguarded.symm.trans hguarded'
    | words _ hprogram' => cases (hprogram _).symm.trans hprogram'
    | endless => cases hguarded
    | pattern => simp at hlook
    | reversedRange => simp at hlook
    | markup => simp at hlook
    | restoreWarning => cases hpath
  · rintro ⟨hlong, rfl⟩
    exact .tooLong hpath hlong

theorem fails_look_iff {file : String} {act : Document → Work Int}
    (hact : ∀ document, ¬ Fails (act document) place fault) :
    Fails (withDocument file act) place fault ↔ place.disk.TooLong (.ofString file) ∧
      fault = .system (Disk.faultAt (.ofString file) .tooLong) := by
  rw [fails_withDocument_iff]
  exact or_iff_left fun ⟨document, _, hfails⟩ => hact document hfails

theorem not_fails_definition (line column : Int) (document : Document) :
    ¬ Fails (definition line column document) place fault := by
  unfold definition
  split
  · exact not_fails_giveUp _ _
  · exact fun h => nomatch h

/-- **With what a command can end but a status**: the faults of `Command.Escapes`, no more and no
fewer. A dialect of pattern files has to be `Workspace.Plain` for it, since a fault that no pattern
file is known to have could not be told. -/
theorem fails_perform_iff (hplain : Workspace.Plain conventions.patterns)
    (hkeeper : place.store.keeper = .file path)
    (hkept : (Settings.Keeper.file path).load place.disk = .ok kept) (command : Command) :
    Fails (perform conventions command) place fault ↔
      command.Escapes conventions path kept place fault := by
  cases command with
  | outline file format =>
    rw [escapes_look_iff (Or.inl ⟨format, rfl⟩)]
    exact fails_look_iff fun document h => nomatch h
  | lint folder format => exact ⟨escapes_of_fails_lint hplain, fails_lint_of_escapes⟩
  | definition file line column =>
    rw [escapes_look_iff (Or.inr ⟨line, column, rfl⟩)]
    exact fails_look_iff (not_fails_definition line column)
  | compile file answer => exact fails_compile_command_iff hkeeper hkept
  | run file answer => exact fails_run_command_iff hkeeper hkept
  | check file => exact fails_check_command_iff hkeeper hkept
  | restoreWarning => exact fails_restoreWarning_iff hkeeper hkept

/-! ## Command lines -/

theorem fails_invoke_iff (hplain : Workspace.Plain conventions.patterns)
    (usual : Path) (invocation : Invocation) :
    Fails (invoke conventions usual invocation) place fault ↔
      invocation.Escapes conventions usual place fault := by
  have hrun := runAt_invoke conventions usual invocation place
  cases hkept : (Settings.Keeper.file (invocation.keptIn usual)).load place.disk with
  | error met =>
    rw [hkept] at hrun
    constructor
    · intro h
      refine .settings (loadEscapes_iff.mpr ?_)
      simp only at hrun
      split at hrun
      · obtain ⟨console, hrun⟩ := hrun
        cases h.symm.trans (congrArg Prod.fst hrun)
      · rename_i hmet
        cases h.symm.trans (congrArg Prod.fst hrun)
        exact ⟨hkept, Bool.eq_false_of_not_eq_true hmet⟩
    · rintro (h | ⟨hkept', -⟩)
      · obtain ⟨hmet, hfault⟩ := loadEscapes_iff.mp h
        cases hkept.symm.trans hmet
        simp only [hfault, Bool.false_eq_true, if_false] at hrun
        exact congrArg Prod.fst hrun
      · cases hkept.symm.trans hkept'
  -- The file was read, so what escapes is what escapes from the command.
  | ok kept =>
    rw [hkept] at hrun
    simp only at hrun
    have hthere : (Settings.Keeper.file (invocation.keptIn usual)).load
        (invocation.workplace usual place).disk = .ok kept := hkept
    rw [Fails, hrun]
    refine (fails_perform_iff hplain rfl hthere _).trans ⟨.command hkept, ?_⟩
    rintro (h | ⟨hkept', h⟩)
    · cases hkept.symm.trans (loadEscapes_iff.mp h).1
    · cases hkept.symm.trans hkept'
      exact h

theorem fails_execute_iff (hplain : Workspace.Plain conventions.patterns)
    (usual : Path) (arguments : List String) :
    Fails (executeBy conventions usual arguments) place fault ↔ ∃ invocation,
      Invocation.read? arguments = some invocation ∧
        invocation.Escapes conventions usual place fault := by
  unfold executeBy
  cases Invocation.read? arguments with
  | none => simp [fails_pure_iff]
  | some invocation =>
    simp only [Option.some.injEq, exists_eq_left']
    exact fails_invoke_iff hplain usual invocation

/-- Nothing that is reported escapes, nor that a file cannot be read. The reported ones are those of
`isActionFault`. -/
theorem Invocation.Escapes.unreported {usual : Path} {invocation : Invocation}
    (h : invocation.Escapes conventions usual place fault) :
    isActionFault fault = false ∧ ∀ reason, fault ≠ .unreadable reason := by
  have hkeep {disk : Disk} {settings : Settings} {path : Path}
      (h : KeepEscapes disk path settings fault) :
      isActionFault fault = false ∧ ∀ reason, fault ≠ .unreadable reason := by
    cases h <;> exact ⟨rfl, nofun⟩
  cases h with
  | settings h => cases h <;> exact ⟨rfl, nofun⟩
  | command hkept h =>
    generalize invocation.command = command at h
    cases h with
    | unkept _ _ _ _ _ h => exact hkeep h
    | restoreWarning h => exact hkeep h
    | _ => exact ⟨rfl, nofun⟩

/-- **A command line ends with a status unless one of the listed faults escapes from it**, whatever
the arguments, the files, the typed lines and the tool are. Each of them does escape where it is
listed; faults of settings and tools, and files that cannot be read, never do. The list is
`Invocation.Escapes`, and `fails_execute_iff` is the equivalence. -/
theorem execute_ends (conventions : Conventions ρ) (hplain : Workspace.Plain conventions.patterns)
    (usual : Path) (arguments : List String) (place : Workplace) :
    ((∃ status after, runAt (executeBy conventions usual arguments) place = (.ok status, after)) ↔
        ∀ invocation, Invocation.read? arguments = some invocation →
          ∀ fault, ¬ invocation.Escapes conventions usual place fault) ∧
      (∀ fault, Fails (executeBy conventions usual arguments) place fault ↔ ∃ invocation,
        Invocation.read? arguments = some invocation ∧
          invocation.Escapes conventions usual place fault) ∧
      ∀ fault, Fails (executeBy conventions usual arguments) place fault →
        isActionFault fault = false ∧ ∀ reason, fault ≠ .unreadable reason := by
  refine ⟨⟨?_, ?_⟩, fun fault => fails_execute_iff hplain usual arguments, fun fault h => ?_⟩
  · rintro ⟨status, after, hrun⟩ invocation hread fault hescapes
    have hfails := (fails_execute_iff hplain usual arguments).mpr ⟨invocation, hread, hescapes⟩
    cases hfails.symm.trans (congrArg Prod.fst hrun)
  · intro hnone
    cases hrun : runAt (executeBy conventions usual arguments) place with
    | mk result after =>
      cases result with
      | ok status => exact ⟨status, after, rfl⟩
      | error fault =>
        obtain ⟨invocation, hread, hescapes⟩ :=
          (fails_execute_iff hplain usual arguments).mp (congrArg Prod.fst hrun)
        exact absurd hescapes (hnone invocation hread fault)
  · obtain ⟨invocation, -, hescapes⟩ := (fails_execute_iff hplain usual arguments).mp h
    exact hescapes.unreported

/-- A compiler is named whose quotation mark is never closed: its check ends without a status. -/
theorem execute_ends_open_quote :
    Fails (execute (.ofString "s.json") ["--compiler-path", "'", "check", "--file", "a.spc"])
      { disk := ⟨.folder [("a.spc".toList, .file (Utf8.encode "x;".toList))], []⟩
        store := { keeper := .memory {} } } (.words .openQuote) := by
  have hread : Invocation.read? ["--compiler-path", "'", "check", "--file", "a.spc"] =
      some ⟨none, some "'", .check "a.spc"⟩ := by decide
  refine ((execute_ends standard Workspace.plain_standard _ _ _).2.1 _).mpr
    ⟨_, hread, .command rfl ?_⟩
  exact .words (.check rfl rfl) rfl rfl

end Cli
end SpiceKit
