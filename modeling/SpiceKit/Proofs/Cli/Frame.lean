import SpiceKit.Proofs.Cli.Compiler

/-!
# What a command line may change

All commands load the settings and most load a document, and the effects stand in the middle of what
they do: the document is saved before anybody is asked, and the settings are saved before the tool
is started. **What may have changed in the end, however it ends, is said for each command** by
`Command.Frame` and proved in `Cli.execute_frame`: nothing where a source is only looked at; the
source in the bytes of its own text where a tool is started; and the settings file with its folders
where the question was answered "never", or the warning is turned on again.

The files of a tree are told apart by their places. The settings file and the source have to be two
places, since what is kept in the one would be written over the other.
-/

set_option autoImplicit false

namespace SpiceKit
namespace Cli

open Work SpiceKit.Action

variable {ρ : Type} {conventions : Conventions ρ} {place after : Workplace} {path : Path}
  {kept : Settings} {document : Document}

/-! ## What an action on a source leaves -/

/-- What an action on a source file may change on the disk: the source, to the bytes of its own
text; and, if `silenced`, the settings file and the folders that were missing on the way to it.
Everything else stands as it stood, at every place. -/
structure Footprint (settings source : Path) (silenced : Prop) (disk after : Disk) : Prop where
  here : after.here = disk.here
  saved : after.tree.standing? (disk.lexicalPlace source) =
      disk.tree.standing? (disk.lexicalPlace source) ∨
    ∃ bytes text, disk.tree.standing? (disk.lexicalPlace source) = some (.file bytes) ∧
      Disk.textOfBytes bytes = .ok text ∧
      after.tree.standing? (disk.lexicalPlace source) = some (.file (Utf8.encode text))
  elsewhere : ∀ place, place ≠ disk.lexicalPlace source →
    after.tree.standing? place = disk.tree.standing? place ∨
      silenced ∧ (place = disk.lexicalPlace settings ∨
        disk.OnWay settings place ∧ disk.tree.standing? place = none ∧
          after.tree.standing? place = some .folder)

namespace Footprint

variable {settings source : Path} {silenced : Prop} {disk before after : Disk}

theorem refl (settings source : Path) (silenced : Prop) (disk : Disk) :
    Footprint settings source silenced disk disk :=
  ⟨rfl, Or.inl rfl, fun _ _ => Or.inl rfl⟩

theorem of_resaved (h : Disk.Resaved source disk after) :
    Footprint settings source silenced disk after :=
  ⟨h.here, Or.inr h.source, fun place hne => Or.inl (h.elsewhere place hne)⟩

theorem standing_source (h : Footprint settings source silenced disk after) {bytes : List UInt8}
    (hstands : disk.tree.standing? (disk.lexicalPlace source) = some (.file bytes)) :
    ∃ bytes', after.tree.standing? (disk.lexicalPlace source) = some (.file bytes') := by
  rcases h.saved with hsame | ⟨_, text, -, -, hafter⟩
  · exact ⟨bytes, hsame.trans hstands⟩
  · exact ⟨Utf8.encode text, hafter⟩

theorem keep (h : Footprint settings source silenced disk before) (hsilenced : silenced)
    {bytes : List UInt8}
    (hstands : disk.tree.standing? (disk.lexicalPlace source) = some (.file bytes))
    (hapart : disk.lexicalPlace settings ≠ disk.lexicalPlace source)
    (hkept : Settings.Store.Kept settings before after) :
    Footprint settings source silenced disk after := by
  have hsettings := Disk.lexicalPlace_congr h.here settings
  refine ⟨hkept.here.trans h.here, ?_, fun place hne => ?_⟩
  · -- The source is a file, so no folder can have been made in its place.
    obtain ⟨bytes', hbytes'⟩ := h.standing_source hstands
    rcases hkept.standing (disk.lexicalPlace source) (hsettings ▸ hapart.symm) with
      hsame | ⟨-, hnone, -⟩
    · rw [hsame]
      exact h.saved
    · cases hnone.symm.trans hbytes'
  · by_cases hplace : place = disk.lexicalPlace settings
    · exact Or.inr ⟨hsilenced, Or.inl hplace⟩
    · rcases hkept.standing place (hsettings ▸ hplace) with hsame | ⟨hway, hnone, hfolder⟩
      · rw [hsame]
        exact h.elsewhere place hne
      · rw [Disk.onWay_congr h.here] at hway
        rcases h.elsewhere place hne with hsame | ⟨-, hother⟩
        · exact Or.inr ⟨hsilenced, Or.inr ⟨hway, hsame ▸ hnone, hfolder⟩⟩
        · rcases hother with heq | ⟨-, hgone, -⟩
          · exact absurd heq hplace
          · exact Or.inr ⟨hsilenced, Or.inr ⟨hway, hgone, hfolder⟩⟩

end Footprint

/-- What comes before the tool leaves the source saved, and the settings only after an answer that
is to hold for good. A `Footprint` names the places that may differ, one by one. -/
theorem footprint_readied {disk : Disk} {silenced : Prop} (kept : Settings)
    (answer : Option Consent.Choice) (input : List (List Char))
    (hread : disk.readText document.path = .ok document.text)
    (hapart : disk.lexicalPlace path ≠ disk.lexicalPlace document.path)
    (hsilenced : (readied path kept document answer input disk).asked = [document.redefinitions] →
      reply answer input = some .neverAsk → silenced) :
    Footprint path document.path silenced disk
      (readied path kept document answer input disk).disk := by
  obtain ⟨bytes, hstands⟩ := Disk.standing?_of_readText hread
  obtain ⟨before, hbefore, hafter⟩ := readied_disk path kept answer input hread
  have hsaved : Footprint path document.path silenced disk before := by
    rcases hbefore with rfl | hresaved
    · exact .refl _ _ _ _
    · exact .of_resaved hresaved
  rcases hafter with hsame | ⟨hruling, hasked, fault, hwrite⟩
  · rw [hsame]
    exact hsaved
  · obtain ⟨hquestions, hreply⟩ := of_ruling_suppress hruling
    have hkept := Settings.Store.kept_writeFile before path (kept.withRedefinitionCheck false)
    rw [hwrite] at hkept
    exact hsaved.keep (hsilenced (hasked.trans hquestions) hreply) hstands hapart hkept

/-! ## What a command leaves -/

/-- The disk is as it was, and no tool was started. The console may have been written to. Commands
that only show something leave a workplace so (`untouched_of_keeps`). -/
def Untouched (place after : Workplace) : Prop :=
  after.disk = place.disk ∧ after.launches = place.launches

/-- The question was put, no answer was given in advance, and the one that was typed is "never".
Only then may a command that asks write the settings file (`Command.Frame`). -/
def AnsweredNever (answer : Option Consent.Choice) (place after : Workplace) : Prop :=
  answer = none ∧ (Console.dialogue place.console.input).2.1 = some .neverAsk ∧
    ∃ redefinitions, after.asked = place.asked ++ [redefinitions]

def Command.file? : Command → Option String
  | .outline file _ => some file
  | .lint _ _ => none
  | .definition file _ _ => some file
  | .compile file _ => some file
  | .run file _ => some file
  | .check file => some file
  | .restoreWarning => none

def Command.answer? : Command → Option Consent.Choice
  | .compile _ answer => answer
  | .run _ answer => answer
  | _ => none

/-- **What a command may change**, with the settings kept in a file: nothing for the three that only
look, a `Footprint` for the three that start a tool, and what `Settings.Store.Kept` allows where the
warning is turned on again. -/
def Command.Frame (settings : Path) (place after : Workplace) : Command → Prop
  | .outline _ _ => Untouched place after
  | .lint _ _ => Untouched place after
  | .definition _ _ _ => Untouched place after
  | .compile file answer =>
    Footprint settings (.ofString file) (AnsweredNever answer place after) place.disk after.disk
  | .run file answer =>
    Footprint settings (.ofString file) (AnsweredNever answer place after) place.disk after.disk
  | .check file => Footprint settings (.ofString file) False place.disk after.disk
  | .restoreWarning =>
    Settings.Store.Kept settings place.disk after.disk ∧ after.launches = place.launches

theorem Command.Frame.refl (command : Command) (settings : Path) (place : Workplace)
    (console : Console) (store : Settings.Store) :
    command.Frame settings place { place with console := console, store := store } := by
  cases command with
  | outline file format => exact ⟨rfl, rfl⟩
  | lint path format => exact ⟨rfl, rfl⟩
  | definition file line column => exact ⟨rfl, rfl⟩
  | compile file answer => exact Footprint.refl _ _ _ _
  | run file answer => exact Footprint.refl _ _ _ _
  | check file => exact Footprint.refl _ _ _ _
  | restoreWarning => exact ⟨⟨rfl, fun _ _ => Or.inl rfl⟩, rfl⟩

def effects (place : Workplace) : Disk × List Tool.Launch := (place.disk, place.launches)

theorem untouched_of_keeps {α : Type} {work : Work α} (h : Keeps effects work)
    (place : Workplace) : Untouched place (runAt work place).2 :=
  Prod.mk.inj (h place)

theorem frame_consented {answer : Option Consent.Choice}
    (hread : place.disk.readText document.path = .ok document.text)
    (hapart : place.disk.lexicalPlace path ≠ place.disk.lexicalPlace document.path)
    (hanswer : answer ≠ some .neverAsk)
    (hdisk : after.disk = (readied path kept document answer place.console.input place.disk).disk)
    (hasked : after.asked = place.asked ++
      (readied path kept document answer place.console.input place.disk).asked) :
    Footprint path document.path (AnsweredNever answer place after) place.disk after.disk := by
  rw [hdisk]
  refine footprint_readied kept answer place.console.input hread hapart fun hquestion hreply => ?_
  cases answer with
  | some choice => exact absurd hreply hanswer
  | none => exact ⟨rfl, hreply, document.redefinitions, hquestion ▸ hasked⟩

theorem frame_withDocument {command : Command} {file : String} {act : Document → Work Int}
    (h : ∀ document, documentOf? place.disk file = .ok (some document) →
      command.Frame path place (runAt (act document) place).2) :
    command.Frame path place (runAt (withDocument file act) place).2 := by
  rcases withDocument_cases file act place with ⟨_, console, hrun⟩ | ⟨document, hdocument, hrun⟩
  · rw [hrun]
    exact .refl command path place console place.store
  · rw [hrun]
    exact h document hdocument

/-- **A command changes no more than it may.** What each one may change is its `Command.Frame`. -/
theorem frame_perform (command : Command) (hkeeper : place.store.keeper = .file path)
    (hkept : (Settings.Keeper.file path).load place.disk = .ok kept)
    (hapart : ∀ file, command.file? = some file →
      place.disk.lexicalPlace path ≠ place.disk.lexicalPlace (.ofString file))
    (hanswer : command.answer? ≠ some .neverAsk) :
    command.Frame path place (runAt (perform conventions command) place).2 := by
  cases command with
  | outline file format =>
    exact untouched_of_keeps (keeps_outline (fun _ _ => rfl) _ _) place
  | lint path format => exact untouched_of_keeps (keeps_lint (fun _ _ => rfl) _ _) place
  | definition file line column =>
    exact untouched_of_keeps
      (keeps_withDocument (fun _ _ => rfl) _ (keeps_definition (fun _ _ => rfl) _ _)) place
  -- From here on the document is saved first, and what is behind that looks at the disk only.
  | compile file answer =>
    refine frame_withDocument fun document hdocument => ?_
    obtain ⟨hpath, hread⟩ := documentOf?_eq_some hdocument
    rw [Command.Frame, ← hpath]
    exact frame_consented hread (hpath ▸ hapart file rfl) hanswer
      (look_compile (fun _ _ => rfl) (fun _ _ => rfl) hkeeper hkept hread)
      (look_compile (fun _ _ => rfl) (fun _ _ => rfl) hkeeper hkept hread)
  | run file answer =>
    refine frame_withDocument fun document hdocument => ?_
    obtain ⟨hpath, hread⟩ := documentOf?_eq_some hdocument
    rw [Command.Frame, ← hpath]
    exact frame_consented hread (hpath ▸ hapart file rfl) hanswer
      (look_run (fun _ _ => rfl) (fun _ _ => rfl) hkeeper hkept hread)
      (look_run (fun _ _ => rfl) (fun _ _ => rfl) hkeeper hkept hread)
  | check file =>
    refine frame_withDocument fun document hdocument => ?_
    obtain ⟨hpath, hread⟩ := documentOf?_eq_some hdocument
    rw [Command.Frame, disk_check hkeeper hkept hread, ← hpath, savedDisk]
    split
    · rename_i hsave
      exact .of_resaved (Disk.resaved_of_writeText hread hsave)
    · exact Footprint.refl _ _ _ _
  | restoreWarning =>
    refine ⟨?_, look_restoreWarning (fun _ _ => rfl) hkeeper hkept⟩
    have hdisk : (runAt (perform conventions .restoreWarning) place).2.disk = _ :=
      look_restoreWarning (fun _ _ => rfl) hkeeper hkept
    rw [hdisk]
    exact Settings.Store.kept_writeFile _ _ _

/-! ## The status of what cannot be used -/

theorem ends_giveUp {allowed : Int → Prop} {status : Int} (h : allowed status) (line : String) :
    Ends allowed (giveUp line status) := .bind _ fun _ => .pure h

theorem ends_reporting {allowed : Int → Prop} {status : Int} {act : Work Int}
    (h : Ends allowed act) (hstatus : allowed status) (reported : Fault → Bool) :
    Ends allowed (reporting reported status act) := by
  refine .tryCatch h fun fault => ?_
  split
  · exact ends_giveUp hstatus _
  · exact .throw _

theorem ends_compile (document : Document) : Ends (· ≠ 2) (compile document) := by
  refine .bind _ fun product => ?_
  cases product with
  | none => exact ends_giveUp (by decide) _
  | some product => exact .bind _ fun _ => .pure (by decide)

theorem ends_check (document : Document) : Ends (· ≠ 2) (check document) :=
  .bind _ fun _ => .bind _ fun _ => .pure (by decide)

theorem ends_restoreWarning : Ends (· ≠ 2) restoreWarning :=
  .bind _ fun _ => .bind _ fun _ => .pure (by decide)

theorem untouched_of_ends {file : String} {act : Document → Work Int} {status : Int}
    (hact : ∀ document, Ends (· ≠ status) (act document))
    (h : (runAt (withDocument file act) place).1 = .ok status) :
    Untouched place (runAt (withDocument file act) place).2 := by
  rcases withDocument_cases file act place with ⟨_, console, hrun⟩ | ⟨document, -, hrun⟩
  · rw [hrun]
    exact ⟨rfl, rfl⟩
  · rw [hrun] at h
    exact absurd rfl (hact document place status h)

/-- **A command line, settings or a path that cannot be used is found out before anything is done.**
A program that is run has a status of its own, which may be the same. Statuses are bounded with
`Ends` (`ends_reporting`). -/
theorem untouched_perform {command : Command} (hrun : ∀ file answer, command ≠ .run file answer)
    (h : (runAt (perform conventions command) place).1 = .ok 2) :
    Untouched place (runAt (perform conventions command) place).2 := by
  cases command with
  | outline file format =>
    exact untouched_of_keeps (keeps_outline (fun _ _ => rfl) _ _) place
  | lint path format => exact untouched_of_keeps (keeps_lint (fun _ _ => rfl) _ _) place
  | definition file line column =>
    exact untouched_of_keeps
      (keeps_withDocument (fun _ _ => rfl) _ (keeps_definition (fun _ _ => rfl) _ _)) place
  | compile file answer =>
    exact untouched_of_ends (fun document => .bind _ fun _ =>
      ends_reporting (ends_compile document) (by decide) _) h
  | run file answer => exact absurd rfl (hrun file answer)
  | check file =>
    exact untouched_of_ends (fun document =>
      ends_reporting (ends_check document) (by decide) _) h
  | restoreWarning =>
    exact absurd rfl (ends_reporting ends_restoreWarning (by decide) _ place 2 h)

/-! ## Command lines -/

theorem answer?_ne_neverAsk (given : List Given) : answer? given ≠ some (some .neverAsk) := by
  unfold answer?
  split <;> simp

/-- The answer "never" cannot be given in advance. So `AnsweredNever` always means a typed answer. -/
theorem answer?_of_read? {name : String} {arguments : List String} {command : Command}
    (h : Command.read? name arguments = some command) : command.answer? ≠ some .neverAsk := by
  unfold Command.read? at h
  split at h
  all_goals simp only [Option.bind_eq_bind, Option.bind_eq_some_iff, Option.pure_def,
    Option.some.injEq, reduceCtorEq] at h
  · obtain ⟨_, _, _, _, _, _, rfl⟩ := h
    exact nofun
  · obtain ⟨_, _, _, _, _, _, rfl⟩ := h
    exact nofun
  · obtain ⟨_, _, _, _, _, _, _, _, rfl⟩ := h
    exact nofun
  -- The two commands that may ask: on their command lines nobody can ask for silence.
  · obtain ⟨given, _, _, _, answer, hanswer, rfl⟩ := h
    rintro rfl
    exact answer?_ne_neverAsk given hanswer
  · obtain ⟨given, _, _, _, answer, hanswer, rfl⟩ := h
    rintro rfl
    exact answer?_ne_neverAsk given hanswer
  · obtain ⟨_, _, _, _, rfl⟩ := h
    exact nofun
  · obtain ⟨_, _, rfl⟩ := h
    exact nofun

/-- **What a command line may change.** One that is not understood changes nothing at all. Every
other one changes no more than its command may, if the settings file and the source are two files;
and if it ends with status 2, and no program was run that may have ended so, it has changed no file
and started no tool. It puts together `frame_perform` and `untouched_perform`. -/
theorem execute_frame (conventions : Conventions ρ) (usual : Path) (arguments : List String)
    (place : Workplace) :
    (Invocation.read? arguments = none →
      runAt (executeBy conventions usual arguments) place = (.ok 2, place)) ∧
    ∀ invocation, Invocation.read? arguments = some invocation →
      (∀ file, invocation.command.file? = some file →
        place.disk.lexicalPlace (invocation.keptIn usual) ≠
          place.disk.lexicalPlace (.ofString file)) →
      invocation.command.Frame (invocation.keptIn usual) place
          (runAt (executeBy conventions usual arguments) place).2 ∧
        ((∀ file answer, invocation.command ≠ .run file answer) →
          (runAt (executeBy conventions usual arguments) place).1 = .ok 2 →
          Untouched place (runAt (executeBy conventions usual arguments) place).2) := by
  refine ⟨fun hnone => by rw [executeBy, hnone]; rfl, fun invocation hread hapart => ?_⟩
  obtain ⟨-, name, rest, -, hcommand, -⟩ := read?_eq_some hread
  have hinvoke := runAt_invoke conventions usual invocation place
  rw [runAt_execute hread]
  cases hkept : (Settings.Keeper.file (invocation.keptIn usual)).load place.disk with
  | error fault =>
    obtain ⟨result, console, hrun⟩ : ∃ result console,
        runAt (invoke conventions usual invocation) place =
          (result, { invocation.workplace usual place with console := console }) := by
      rw [hkept] at hinvoke
      simp only at hinvoke
      split at hinvoke
      · obtain ⟨console, hrun⟩ := hinvoke
        exact ⟨_, console, hrun⟩
      · exact ⟨_, place.console, hinvoke⟩
    rw [hrun]
    exact ⟨.refl _ _ place console _, fun _ _ => ⟨rfl, rfl⟩⟩
  | ok kept =>
    rw [hkept] at hinvoke
    simp only at hinvoke
    rw [hinvoke]
    exact ⟨frame_perform invocation.command rfl hkept hapart (answer?_of_read? hcommand),
      fun hrun hstatus => untouched_perform hrun hstatus⟩

/-- A source of two lines, the first with a line end of two characters, that is compiled where there
are no settings yet. -/
theorem execute_frame_compile :
    let place : Workplace :=
      { disk := ⟨.folder [(['a'], .file [0x3B, 0x0D, 0x0A, 0x3B])], []⟩
        store := { keeper := .memory {} } }
    let after := (runAt (execute (.ofString "s/k") ["compile", "--file", "a"]) place).2
    Invocation.read? ["compile", "--file", "a"] = some ⟨none, none, .compile "a" none⟩ ∧
      place.disk.lexicalPlace (.ofString "s/k") ≠ place.disk.lexicalPlace (.ofString "a") ∧
      Footprint (.ofString "s/k") (.ofString "a") (AnsweredNever none place after) place.disk
        after.disk := by
  intro place after
  have hread : Invocation.read? ["compile", "--file", "a"] =
      some ⟨none, none, .compile "a" none⟩ := by decide
  have hapart : place.disk.lexicalPlace (.ofString "s/k") ≠
      place.disk.lexicalPlace (.ofString "a") := by decide
  refine ⟨hread, hapart, ((execute_frame standard (.ofString "s/k") _ place).2 _ hread ?_).1⟩
  rintro file hfile
  obtain rfl := Option.some.inj hfile
  exact hapart

end Cli
end SpiceKit
