import SpiceKit.Cli.Run
import SpiceKit.Proofs.Action.Console

/-!
# A command, step by step

Every command that works on a file starts by loading its document, which ends the command early if
there is none; some go on to the gate and a tool. The equations here take a command apart at these
seams. `Command.diskAfter` puts them together for the disk: it says what a command leaves there,
from the settings file, the settings that are kept in it and the lines that will be typed
(`Cli.disk_perform`). It mentions no compiler named for the time being.
-/

set_option autoImplicit false

namespace SpiceKit
namespace Cli

open Work SpiceKit.Action

variable {α γ ρ : Type} {conventions : Conventions ρ} {look : Workplace → γ}
  {place : Workplace} {path : Path} {kept : Settings}

/-! ## Showing -/

theorem keeps_display (hlook : ∀ place console, look { place with console := console } = look place)
    (shown : Display) : Keeps look (display shown) := fun _ => hlook _ _

theorem keeps_complain
    (hlook : ∀ place console, look { place with console := console } = look place) (line : String) :
    Keeps look (complain line) := fun _ => hlook _ _

theorem keeps_giveUp
    (hlook : ∀ place console, look { place with console := console } = look place) (line : String)
    (status : Int) : Keeps look (giveUp line status) :=
  .bind (keeps_complain hlook line) fun _ => .pure _

theorem keeps_orFault (found : Except OsFault α) : Keeps look (orFault found) := by
  cases found with
  | ok a => exact .pure a
  | error fault => exact .throw _

theorem keeps_lint (hlook : ∀ place console, look { place with console := console } = look place)
    (path : Path) (format : Format) : Keeps look (lint conventions path format) := by
  refine .bind .get fun place => .bind (keeps_orFault _) fun found => ?_
  split
  · split
    · exact keeps_giveUp hlook _ _
    · exact .throw _
    · rename_i reports failures _
      refine .bind (.forM (fun _ => keeps_complain hlook _) failures) fun _ => ?_
      refine .bind ?_ fun _ => .pure _
      cases format with
      | json => exact keeps_display hlook _
      | table =>
        refine .forM (fun report => ?_) reports
        unfold showReport
        split
        · exact .throw _
        · exact .bind (keeps_display hlook _) fun _ => keeps_display hlook _
  · exact keeps_giveUp hlook _ _

theorem keeps_definition
    (hlook : ∀ place console, look { place with console := console } = look place)
    (line column : Int) (document : Document) : Keeps look (definition line column document) := by
  unfold definition
  split
  · exact keeps_giveUp hlook _ _
  · exact .bind (keeps_display hlook _) fun _ => .pure _

/-! ## The document of a command -/

/-- The document of a file argument; nothing if there is no file or it cannot be read. Every command
on a file starts with it, and `runAt_withDocument` tells its three outcomes apart. -/
def documentOf? (disk : Disk) (file : String) : Except Fault (Option Document) :=
  match disk.hasFile (Path.ofString file) with
  | .error fault => .error (.system fault)
  | .ok false => .ok none
  | .ok true =>
    match Document.load disk (Path.ofString file) with
    | .ok document => .ok (some document)
    | .error _ => .ok none

theorem load_eq_ok {disk : Disk} {path : Path} {document : Document}
    (h : Document.load disk path = .ok document) :
    document.path = path ∧ disk.readText path = .ok document.text := by
  unfold Document.load at h
  cases hread : disk.readText path with
  | error reason =>
    rw [hread] at h
    cases h
  | ok text =>
    rw [hread] at h
    obtain rfl := Except.ok.inj h
    exact ⟨rfl, rfl⟩

/-- The document of a command is that of its file argument, with the text of the file. Its path is
read with `Path.ofString`, and its text with `Disk.readText`. -/
theorem documentOf?_eq_some {disk : Disk} {file : String} {document : Document}
    (h : documentOf? disk file = .ok (some document)) :
    document.path = Path.ofString file ∧ disk.readText document.path = .ok document.text := by
  unfold documentOf? at h
  split at h
  · cases h
  · cases h
  · split at h
    · rename_i hload
      obtain rfl := Option.some.inj (Except.ok.inj h)
      obtain ⟨hpath, hread⟩ := load_eq_ok hload
      exact ⟨hpath, by rw [hpath, hread]⟩
    · cases h

/-- **A command on a file goes on with its document**, or ends before it has changed anything but
the console. Where `documentOf?` has a document it is the same as doing the rest with it. -/
theorem runAt_withDocument (file : String) (act : Document → Work Int) (place : Workplace) :
    match documentOf? place.disk file with
    | .error fault => runAt (withDocument file act) place = (.error fault, place)
    | .ok none =>
      ∃ console, runAt (withDocument file act) place = (.ok 2, { place with console := console })
    | .ok (some document) => runAt (withDocument file act) place = runAt (act document) place := by
  unfold documentOf? withDocument
  rw [runAt_bind_ok (runAt_get place)]
  simp only
  cases place.disk.hasFile (Path.ofString file) with
  | error fault => rfl
  | ok found =>
    cases found with
    | false =>
      exact ⟨place.console.complain
        ("File does not exist: " ++ (Path.ofString file).toString), rfl⟩
    | true =>
      cases hload : Document.load place.disk (Path.ofString file) with
      | error reason =>
        refine ⟨place.console.complain
          ("Failed to read file: " ++ (Path.ofString file).toString), ?_⟩
        simp only [orFault, pure_bind, if_true]
        rfl
      | ok document => simp only [orFault, pure_bind, if_true]

/-- Either way nothing but the console has changed when a command goes on with its document. For
what a command leaves behind this is enough, and the reasons why it ended play no part. -/
theorem withDocument_cases (file : String) (act : Document → Work Int) (place : Workplace) :
    (∃ result console,
      runAt (withDocument file act) place = (result, { place with console := console })) ∨
    ∃ document, documentOf? place.disk file = .ok (some document) ∧
      runAt (withDocument file act) place = runAt (act document) place := by
  have hrun := runAt_withDocument file act place
  cases hdocument : documentOf? place.disk file with
  | error fault =>
    rw [hdocument] at hrun
    exact Or.inl ⟨.error fault, place.console, hrun⟩
  | ok found =>
    rw [hdocument] at hrun
    cases found with
    | none =>
      obtain ⟨console, hrun⟩ := hrun
      exact Or.inl ⟨.ok 2, console, hrun⟩
    | some document => exact Or.inr ⟨document, rfl, hrun⟩

theorem keeps_withDocument
    (hlook : ∀ place console, look { place with console := console } = look place) (file : String)
    {act : Document → Work Int} (h : ∀ document, Keeps look (act document)) :
    Keeps look (withDocument file act) := by
  intro place
  rcases withDocument_cases file act place with ⟨_, _, hrun⟩ | ⟨document, -, hrun⟩
  · rw [hrun, hlook]
  · rw [hrun]
    exact h document place

theorem keeps_outline
    (hlook : ∀ place console, look { place with console := console } = look place) (file : String)
    (format : Format) : Keeps look (perform conventions (.outline file format)) :=
  keeps_withDocument hlook file fun _ => .bind (keeps_display hlook _) fun _ => .pure _

/-! ## The gate and the tool -/

theorem look_reporting
    (hlook : ∀ place console, look { place with console := console } = look place)
    (reported : Fault → Bool) (status : Int) (act : Work Int) (place : Workplace) :
    look (runAt (reporting reported status act) place).2 = look (runAt act place).2 := by
  unfold reporting
  rw [runAt_tryCatch]
  cases hrun : runAt act place with
  | mk result place' =>
    cases result with
    | ok status => rfl
    | error fault =>
      simp only
      split
      · exact keeps_giveUp hlook _ _ place'
      · rfl

/-- The workplace at the moment when a tool that needs consent would be started: the disk and the
questions are those of `readied`. -/
def atTool (place : Workplace) (readied : Readied) (console : Console) : Workplace :=
  { place with disk := readied.disk, console := console, asked := place.asked ++ readied.asked }

/-- **What needs consent is done behind the gate**, with the compiler named for the time being.
`readied` is what the gate leaves, whether or not it lets the command pass. -/
theorem runAt_consented (place : Workplace) {answer : Option Consent.Choice}
    {document : Document} {prepared : Readied} (act : Settings → Path → Work α)
    (finish : Option α → Work Int) (hkeeper : place.store.keeper = .file path)
    (hperson : place.person = .console answer)
    (hkept : (Settings.Keeper.file path).load place.disk = .ok kept)
    (hread : place.disk.readText document.path = .ok document.text)
    (hprepared : readied path kept document answer place.console.input place.disk = prepared) :
    ∃ console, runAt (withConsent document act >>= finish) place =
      match prepared.result with
      | .error fault => (.error fault, atTool place prepared console)
      | .ok none => runAt (finish none) (atTool place prepared console)
      | .ok (some settings) =>
        runAt (act (place.store.overlay settings) document.path >>= fun a => finish (some a))
          (atTool place prepared console) := by
  subst hprepared
  obtain ⟨console, hready⟩ := runAt_ready hkeeper hperson hkept hread
  refine ⟨console, ?_⟩
  rw [withConsent_eq, bind_assoc]
  cases hresult :
      (readied path kept document answer place.console.input place.disk).result with
  | error fault =>
    rw [hresult] at hready
    exact runAt_bind_error hready _
  | ok settings =>
    rw [hresult] at hready
    cases settings with
    | none => exact runAt_bind_ok hready _
    | some settings =>
      refine (runAt_bind_ok hready _).trans ?_
      simp only [Option.map_some, bind_assoc, pure_bind]
      rfl

theorem runAt_check {document : Document} (hkeeper : place.store.keeper = .file path)
    (hkept : (Settings.Keeper.file path).load place.disk = .ok kept)
    (hread : place.disk.readText document.path = .ok document.text) :
    runAt (check document) place =
      match place.disk.writeText document.path document.text with
      | .error fault => (.error (document.unsaved fault), place)
      | .ok saved =>
        runAt (do
            let product ← Tool.check (place.store.overlay kept) document.path
            display (.notice product.message)
            return 0)
          { place with disk := saved } := by
  unfold check Action.check
  rw [bind_assoc]
  cases hsave : place.disk.writeText document.path document.text with
  | error fault => exact runAt_bind_error (runAt_saveDocument_error hsave) _
  | ok saved =>
    have halike := (Disk.resaved_of_writeText hread hsave).alike
    have hload := runAt_load_kept { place with disk := saved } hkeeper
      ((Settings.Keeper.load_of_alike halike _).trans hkept)
    rw [runAt_bind_ok (runAt_saveDocument_ok hsave), bind_assoc, runAt_bind_ok hload]

theorem runAt_restoreWarning (hkeeper : place.store.keeper = .file path)
    (hkept : (Settings.Keeper.file path).load place.disk = .ok kept) :
    ∃ console, runAt restoreWarning place =
      match Settings.Store.writeFile place.disk path (kept.withRedefinitionCheck true) with
      | (restored, some fault) => (.error fault, { place with disk := restored })
      | (restored, none) => (.ok 0, { place with disk := restored, console := console }) := by
  have hsave := runAt_save_kept place hkeeper hkept true
  refine ⟨place.console.add (.notice "Built-in override warnings have been re-enabled."), ?_⟩
  unfold restoreWarning Action.restoreWarning
  rw [bind_assoc, runAt_bind_ok (runAt_load_kept place hkeeper hkept)]
  cases hwrite : Settings.Store.writeFile place.disk path (kept.withRedefinitionCheck true) with
  | mk restored fault =>
    rw [hwrite] at hsave
    cases fault with
    | some fault => exact runAt_bind_error hsave _
    | none => exact runAt_bind_ok hsave _

/-! ## The disk -/

def savedDisk (disk : Disk) (document : Document) : Disk :=
  match disk.writeText document.path document.text with
  | .ok saved => saved
  | .error _ => disk

def diskWith (disk : Disk) (file : String) (after : Document → Disk) : Disk :=
  match documentOf? disk file with
  | .ok (some document) => after document
  | _ => disk

theorem diskWith_cases (disk : Disk) (file : String) (after : Document → Disk) :
    diskWith disk file after = disk ∨
      ∃ document, documentOf? disk file = .ok (some document) ∧
        diskWith disk file after = after document := by
  unfold diskWith
  split
  · rename_i document hdocument
    exact Or.inr ⟨document, hdocument, rfl⟩
  · exact Or.inl rfl

/-- The disk that a command leaves, computed from the settings file, the settings that are kept in
it and the lines that will be typed. No tool and no compiler named for the time being occurs in it,
which is the first half of `compiler_not_kept`. -/
def Command.diskAfter (path : Path) (kept : Settings) (input : List (List Char)) (disk : Disk) :
    Command → Disk
  | .outline _ _ => disk
  | .lint _ _ => disk
  | .definition _ _ _ => disk
  | .compile file answer =>
    diskWith disk file fun document => (readied path kept document answer input disk).disk
  | .run file answer =>
    diskWith disk file fun document => (readied path kept document answer input disk).disk
  | .check file => diskWith disk file (savedDisk disk)
  | .restoreWarning => (Settings.Store.writeFile disk path (kept.withRedefinitionCheck true)).1

theorem disk_withDocument {file : String} {act : Document → Work Int} (after : Document → Disk)
    (h : ∀ document, documentOf? place.disk file = .ok (some document) →
      (runAt (act document) place).2.disk = after document) :
    (runAt (withDocument file act) place).2.disk = diskWith place.disk file after := by
  have hrun := runAt_withDocument file act place
  unfold diskWith
  cases hdocument : documentOf? place.disk file with
  | error fault =>
    rw [hdocument] at hrun
    simp only at hrun
    rw [hrun]
  | ok found =>
    rw [hdocument] at hrun
    cases found with
    | none =>
      obtain ⟨console, hrun⟩ := hrun
      rw [hrun]
    | some document =>
      simp only at hrun
      rw [hrun]
      exact h document hdocument

/-- What is seen behind the gate but on the console is what is seen when the tool would be started,
if neither the tool nor what is then done changes it. `look_compile` and `look_run` are its cases,
for the disk as well as for the questions. -/
theorem look_consented {answer : Option Consent.Choice} {document : Document}
    (act : Settings → Path → Work α) (finish : Option α → Work Int)
    (hlook : ∀ place console, look { place with console := console } = look place)
    (hact : ∀ settings path, Keeps look (act settings path))
    (hfinish : ∀ a, Keeps look (finish a)) (hkeeper : place.store.keeper = .file path)
    (hkept : (Settings.Keeper.file path).load place.disk = .ok kept)
    (hread : place.disk.readText document.path = .ok document.text) :
    look (runAt (do
        answeredBy answer
        reporting isActionFault 1 (withConsent document act >>= finish)) place).2 =
      look (atTool { place with person := .console answer }
        (readied path kept document answer place.console.input place.disk) place.console) := by
  obtain ⟨console, hrun⟩ := runAt_consented { place with person := .console answer } act finish
    hkeeper rfl hkept hread rfl
  refine (look_reporting hlook isActionFault 1 (withConsent document act >>= finish)
    { place with person := .console answer }).trans ?_
  rw [hrun, ← hlook (atTool _ _ _) console]
  split
  · rfl
  · exact hfinish _ _
  · exact Keeps.bind (hact _ _) (fun a => hfinish _) _

theorem look_compile {answer : Option Consent.Choice} {document : Document}
    (hlook : ∀ place console, look { place with console := console } = look place)
    (hlaunch : ∀ place launches, look { place with launches := launches } = look place)
    (hkeeper : place.store.keeper = .file path)
    (hkept : (Settings.Keeper.file path).load place.disk = .ok kept)
    (hread : place.disk.readText document.path = .ok document.text) :
    look (runAt (do
        answeredBy answer
        reporting isActionFault 1 (compile document)) place).2 =
      look (atTool { place with person := .console answer }
        (readied path kept document answer place.console.input place.disk) place.console) := by
  refine look_consented Tool.compile _ hlook (fun _ _ => ?_) (fun product => ?_) hkeeper hkept hread
  · exact (Tool.onlyLaunches_compile _ _).keeps hlaunch
  · cases product with
    | none => exact keeps_giveUp hlook _ _
    | some product => exact .bind (keeps_display hlook _) fun _ => .pure _

theorem look_run {answer : Option Consent.Choice} {document : Document}
    (hlook : ∀ place console, look { place with console := console } = look place)
    (hlaunch : ∀ place launches, look { place with launches := launches } = look place)
    (hkeeper : place.store.keeper = .file path)
    (hkept : (Settings.Keeper.file path).load place.disk = .ok kept)
    (hread : place.disk.readText document.path = .ok document.text) :
    look (runAt (do
        answeredBy answer
        reporting isActionFault 1 (run document)) place).2 =
      look (atTool { place with person := .console answer }
        (readied path kept document answer place.console.input place.disk) place.console) := by
  refine look_consented Tool.run _ hlook (fun _ _ => ?_) (fun status => ?_) hkeeper hkept hread
  · exact (Tool.onlyLaunches_run _ _).keeps hlaunch
  · cases status with
    | none => exact keeps_giveUp hlook _ _
    | some status => exact .pure _

theorem disk_check {document : Document} (hkeeper : place.store.keeper = .file path)
    (hkept : (Settings.Keeper.file path).load place.disk = .ok kept)
    (hread : place.disk.readText document.path = .ok document.text) :
    (runAt (reporting isActionFault 1 (check document)) place).2.disk =
      savedDisk place.disk document := by
  have htool : Keeps Workplace.disk (do
      let product ← Tool.check (place.store.overlay kept) document.path
      display (.notice product.message)
      return (0 : Int)) :=
    .bind ((Tool.onlyLaunches_check _ _).keeps fun _ _ => rfl) fun product =>
      .bind (keeps_display (fun _ _ => rfl) _) fun _ => .pure _
  refine (look_reporting (fun _ _ => rfl) _ _ _ _).trans ?_
  rw [runAt_check hkeeper hkept hread, savedDisk]
  cases place.disk.writeText document.path document.text with
  | error fault => rfl
  | ok saved => exact htool _

/-- Turning the warning on again writes the settings file and does nothing else that is seen. -/
theorem look_restoreWarning
    (hlook : ∀ place console, look { place with console := console } = look place)
    (hkeeper : place.store.keeper = .file path)
    (hkept : (Settings.Keeper.file path).load place.disk = .ok kept) :
    look (runAt (reporting isSettingsFault 1 restoreWarning) place).2 =
      look { place with
        disk := (Settings.Store.writeFile place.disk path (kept.withRedefinitionCheck true)).1 } := by
  obtain ⟨console, hrun⟩ := runAt_restoreWarning hkeeper hkept
  refine (look_reporting hlook _ _ _ _).trans ?_
  rw [hrun]
  cases Settings.Store.writeFile place.disk path (kept.withRedefinitionCheck true) with
  | mk restored fault =>
    cases fault with
    | some fault => rfl
    | none => exact hlook { place with disk := restored } console

/-- **The disk that a command leaves** is `Command.diskAfter`, whatever the tools do. -/
theorem disk_perform (command : Command) (hkeeper : place.store.keeper = .file path)
    (hkept : (Settings.Keeper.file path).load place.disk = .ok kept) :
    (runAt (perform conventions command) place).2.disk =
      command.diskAfter path kept place.console.input place.disk := by
  cases command with
  | outline file format => exact keeps_outline (fun _ _ => rfl) _ _ _
  | lint path format => exact keeps_lint (fun _ _ => rfl) _ _ _
  | definition file line column =>
    exact keeps_withDocument (fun _ _ => rfl) _ (keeps_definition (fun _ _ => rfl) _ _) _
  | compile file answer =>
    exact disk_withDocument _ fun document hdocument =>
      look_compile (fun _ _ => rfl) (fun _ _ => rfl) hkeeper hkept (documentOf?_eq_some hdocument).2
  | run file answer =>
    exact disk_withDocument _ fun document hdocument =>
      look_run (fun _ _ => rfl) (fun _ _ => rfl) hkeeper hkept (documentOf?_eq_some hdocument).2
  | check file =>
    exact disk_withDocument _ fun document hdocument =>
      disk_check hkeeper hkept (documentOf?_eq_some hdocument).2
  | restoreWarning => exact look_restoreWarning (fun _ _ => rfl) hkeeper hkept

/-! ## Invocations -/

def Invocation.keptIn (usual : Path) (invocation : Invocation) : Path :=
  (invocation.settings.map Path.ofString).getD usual

/-- The workplace at which the command of an invocation is done. Only the store is its own
(`Cli.storeOf`). -/
def Invocation.workplace (usual : Path) (invocation : Invocation) (place : Workplace) : Workplace :=
  { place with store := storeOf usual invocation }

/-- **An invocation does its command**, or ends at its settings before anything is done. The
settings are loaded from `keptIn`, the file that is named or the usual one. -/
theorem runAt_invoke (conventions : Conventions ρ) (usual : Path) (invocation : Invocation)
    (place : Workplace) :
    match (Settings.Keeper.file (invocation.keptIn usual)).load place.disk with
    | .error fault =>
      if isSettingsFault fault then
        ∃ console, runAt (invoke conventions usual invocation) place =
          (.ok 2, { invocation.workplace usual place with console := console })
      else runAt (invoke conventions usual invocation) place =
        (.error fault, invocation.workplace usual place)
    | .ok _ => runAt (invoke conventions usual invocation) place =
        runAt (perform conventions invocation.command) (invocation.workplace usual place) := by
  have hset : runAt (modify fun place => { place with store := storeOf usual invocation }) place =
      (.ok (), invocation.workplace usual place) := rfl
  have hload : (storeOf usual invocation).load place.disk =
      ((Settings.Keeper.file (invocation.keptIn usual)).load place.disk).map
        (storeOf usual invocation).overlay := rfl
  unfold invoke
  rw [runAt_bind_ok hset, runAt_bind_ok (runAt_get _)]
  simp only [Invocation.workplace, hload]
  cases (Settings.Keeper.file (invocation.keptIn usual)).load place.disk with
  | error fault =>
    simp only [Except.map]
    split
    · exact ⟨place.console.complain fault.message, rfl⟩
    · rfl
  | ok kept => rfl

def Invocation.diskAfter (usual : Path) (invocation : Invocation) (input : List (List Char))
    (disk : Disk) : Disk :=
  match (Settings.Keeper.file (invocation.keptIn usual)).load disk with
  | .error _ => disk
  | .ok kept => invocation.command.diskAfter (invocation.keptIn usual) kept input disk

/-- **The disk that an invocation leaves** is that of its command, or the disk as it was if the
settings cannot be loaded. `diskAfter` is that disk, as a function of the invocation and the
workplace. -/
theorem disk_invoke (conventions : Conventions ρ) (usual : Path) (invocation : Invocation)
    (place : Workplace) :
    (runAt (invoke conventions usual invocation) place).2.disk =
      invocation.diskAfter usual place.console.input place.disk := by
  have hrun := runAt_invoke conventions usual invocation place
  unfold Invocation.diskAfter
  cases hkept : (Settings.Keeper.file (invocation.keptIn usual)).load place.disk with
  | error fault =>
    rw [hkept] at hrun
    simp only at hrun ⊢
    split at hrun
    · obtain ⟨console, hrun⟩ := hrun
      rw [hrun]
      rfl
    · rw [hrun]
      rfl
  | ok kept =>
    rw [hkept] at hrun
    simp only at hrun ⊢
    rw [hrun]
    exact disk_perform invocation.command rfl hkept

end Cli
end SpiceKit
