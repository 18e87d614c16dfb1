import SpiceKit.Proofs.Action.Session
import SpiceKit.Proofs.Settings.Store

/-!
# Consent at a console

Before a tool that needs consent is started, its document is saved, the settings are loaded,
somebody at the console may be asked, and after an answer that is to hold for good the settings are
saved and loaded once more. `readied` says what comes of all that, for a document that has just been
loaded and settings that are kept in a file: the settings for the tool, that there is to be no tool,
or a fault; and the disk as it then is.

**A compiler named for the time being plays no part in it** (`Action.runAt_ready`): it lies over the
settings for the tool and is not in anything that is written.
-/

set_option autoImplicit false

namespace SpiceKit
namespace Action

open Work Settings.Store

variable {place : Workplace} {settings kept : Settings} {document : Document} {path : Path}
  {answer : Option Consent.Choice}

/-! ## The gate -/

/-- What the gate makes of a document at a console, if the input does not end before an answer. It
is `Consent.gate` with the `reply` of somebody who may have answered in advance. -/
def ruling (settings : Settings) (document : Document) (answer : Option Consent.Choice)
    (input : List (List Char)) : Option Consent.Verdict :=
  if Consent.needed settings.redefinitionCheck document.redefinitions then
    (reply answer input).map fun choice => .ofAnswer (some choice)
  else some .proceed

theorem ruling_eq_none_iff {input : List (List Char)} :
    ruling settings document answer input = none ↔
      Consent.needed settings.redefinitionCheck document.redefinitions = true ∧
        reply answer input = none := by
  unfold ruling
  split <;> simp [*]

theorem ruling_eq_suppress_iff {input : List (List Char)} :
    ruling settings document answer input = some .proceedAndSuppress ↔
      Consent.needed settings.redefinitionCheck document.redefinitions = true ∧
        reply answer input = some .neverAsk := by
  unfold ruling
  split
  · rename_i hneeded
    cases reply answer input with
    | none => simp
    | some choice => cases choice <;> simp [hneeded, Consent.Verdict.ofAnswer]
  · simp [*]

/-- The settings are silenced only if the question was asked and somebody chose so.
`footprint_readied` needs it to say when the settings file may change. -/
theorem of_ruling_suppress {input : List (List Char)}
    (h : ruling settings document answer input = some .proceedAndSuppress) :
    questions settings document = [document.redefinitions] ∧
      reply answer input = some .neverAsk := by
  obtain ⟨hneeded, hreply⟩ := ruling_eq_suppress_iff.mp h
  exact ⟨if_pos hneeded, hreply⟩

def ruled : Option Consent.Verdict → Except Fault Consent.Verdict
  | some verdict => .ok verdict
  | none => .error .endOfInput

theorem runAt_ask_console (hperson : place.person = .console answer)
    (redefinitions : List Redefinition) :
    ∃ console, runAt (ask redefinitions) place =
      (match reply answer place.console.input with
        | some choice => .ok (some choice)
        | none => .error .endOfInput,
        { place with console := console, asked := place.asked ++ [redefinitions] }) := by
  obtain ⟨disk, store, tools, person, console, launches, asked⟩ := place
  obtain rfl : person = .console answer := hperson
  exact runAt_askAtConsole redefinitions answer
    ⟨disk, store, tools, .console answer, console, launches, asked ++ [redefinitions]⟩

theorem runAt_gate_console (settings : Settings) (document : Document)
    (hperson : place.person = .console answer) :
    ∃ console, runAt (Consent.gate ask settings.redefinitionCheck document.redefinitions) place =
      (ruled (ruling settings document answer place.console.input),
        { place with console := console, asked := place.asked ++ questions settings document }) := by
  unfold Consent.gate ruling questions
  split
  · obtain ⟨console, hasked⟩ := runAt_ask_console hperson document.redefinitions
    refine ⟨console, ?_⟩
    cases hreply : reply answer place.console.input with
    | none =>
      rw [hreply] at hasked
      exact runAt_bind_error hasked _
    | some choice =>
      rw [hreply] at hasked
      exact runAt_bind_ok hasked _
  · exact ⟨place.console, by rw [runAt_pure, List.append_nil]; rfl⟩

theorem overlay_redefinitionCheck (store : Settings.Store) (settings : Settings) :
    (store.overlay settings).redefinitionCheck = settings.redefinitionCheck := by
  unfold overlay
  cases store.compiler <;> rfl

theorem ruling_overlay (store : Settings.Store) (settings : Settings) (document : Document) :
    ruling (store.overlay settings) document = ruling settings document := by
  unfold ruling
  rw [overlay_redefinitionCheck]

theorem questions_overlay (store : Settings.Store) (settings : Settings) (document : Document) :
    questions (store.overlay settings) document = questions settings document := by
  unfold questions
  rw [overlay_redefinitionCheck]

/-- Settings that are kept in a file are loaded with the compiler named for the time being. It is
`Store.load` seen from an action, and the first step of `runAt_ready`. -/
theorem runAt_load_kept (place : Workplace) (hkeeper : place.store.keeper = .file path)
    (hkept : (Settings.Keeper.file path).load place.disk = .ok kept) :
    runAt loadSettings place = (.ok (place.store.overlay kept), place) := by
  rw [runAt_load, load_eq, hkeeper, hkept]
  rfl

/-- What was loaded is saved with the warning on or off. What the file then holds is
`Store.writeFile` of the kept settings, without the overlay (`save_overlay`). -/
theorem runAt_save_kept (place : Workplace) (hkeeper : place.store.keeper = .file path)
    (hkept : (Settings.Keeper.file path).load place.disk = .ok kept) (on : Bool) :
    runAt (saveSettings ((place.store.overlay kept).withRedefinitionCheck on)) place =
      match writeFile place.disk path (kept.withRedefinitionCheck on) with
      | (written, some fault) => (.error fault, { place with disk := written })
      | (written, none) => (.ok (), { place with disk := written }) := by
  have hsave := save_overlay hkeeper (hkeeper ▸ hkept) on
  cases hwrite : writeFile place.disk path (kept.withRedefinitionCheck on) with
  | mk written fault =>
    rw [hwrite] at hsave
    cases fault with
    | none => exact runAt_save_ok hsave
    | some fault => exact runAt_save_error hsave

theorem runAt_mayProceed_console (place : Workplace) (document : Document)
    (hkeeper : place.store.keeper = .file path)
    (hperson : place.person = .console answer)
    (hkept : (Settings.Keeper.file path).load place.disk = .ok kept) :
    ∃ console, runAt (mayProceed document (place.store.overlay kept)) place =
      match ruling kept document answer place.console.input with
      | none => (.error .endOfInput, { place with
          console := console, asked := place.asked ++ questions kept document })
      | some .abort => (.ok false, { place with
          console := console, asked := place.asked ++ questions kept document })
      | some .proceed => (.ok true, { place with
          console := console, asked := place.asked ++ questions kept document })
      | some .proceedAndSuppress =>
        match writeFile place.disk path (kept.withRedefinitionCheck false) with
        | (silenced, some fault) => (.error fault, { place with
            disk := silenced, console := console, asked := place.asked ++ questions kept document })
        | (silenced, none) => (.ok true, { place with
            disk := silenced, console := console
            asked := place.asked ++ questions kept document }) := by
  obtain ⟨console, hgate⟩ := runAt_gate_console (place.store.overlay kept) document hperson
  rw [ruling_overlay, questions_overlay] at hgate
  refine ⟨console, ?_⟩
  unfold mayProceed
  rw [← Document.redefinitions]
  cases hruled : ruling kept document answer place.console.input with
  | none =>
    rw [hruled] at hgate
    exact runAt_bind_error hgate _
  | some verdict =>
    rw [hruled] at hgate
    rw [runAt_bind_ok hgate]
    cases verdict with
    | abort => rfl
    | proceed => rfl
    | proceedAndSuppress =>
      rw [if_pos rfl]
      -- Asking has changed nothing that saving the settings reads.
      have hsilence := runAt_save_kept { place with
        console := console, asked := place.asked ++ questions kept document } hkeeper hkept false
      cases hwrite : writeFile place.disk path (kept.withRedefinitionCheck false) with
      | mk silenced fault =>
        simp only [hwrite] at hsilence
        cases fault with
        | none => exact runAt_bind_ok hsilence _
        | some fault => exact runAt_bind_error hsilence _

/-! ## Up to the tool -/

/-- What is done before the tool is started: its settings, or nothing if it is not to be. It is the
gate and all that it does to the workplace, cut off from the tool behind it. `withConsent_eq` puts
the two together again. -/
def ready (document : Document) : Work (Option Settings) := do
  saveDocument document
  let settings ← loadSettings
  if ← mayProceed document settings then return some (← loadSettings) else return none

/-- What needs consent is done after all that, with the settings as they then are. So whatever is
said of `ready` is said of `compile` and `run` alike. -/
theorem withConsent_eq {α : Type} (document : Document) (act : Settings → Path → Work α) :
    withConsent document act = (ready document >>= fun
      | none => pure none
      | some settings => do return some (← act settings document.path)) := by
  unfold withConsent ready
  simp only [bind_assoc]
  congr; funext _; congr; funext settings; congr; funext proceeds
  cases proceeds with
  | true => simp only [if_true, bind_assoc, pure_bind]
  | false => simp only [Bool.false_eq_true, if_false, pure_bind]

structure Readied where
  result : Except Fault (Option Settings)
  disk : Disk
  asked : List (List Redefinition)

/-- What comes of `ready` when the settings are kept in a file and hold no compiler named for the
time being: computed from the disk, the lines that will be typed and the answer in advance, with no
workplace in it. The results on command lines are read off it. -/
def readied (path : Path) (kept : Settings) (document : Document) (answer : Option Consent.Choice)
    (input : List (List Char)) (disk : Disk) : Readied :=
  match disk.writeText document.path document.text with
  | .error fault => ⟨.error (document.unsaved fault), disk, []⟩
  | .ok saved =>
    match ruling kept document answer input with
    | none => ⟨.error .endOfInput, saved, questions kept document⟩
    | some .abort => ⟨.ok none, saved, questions kept document⟩
    | some .proceed => ⟨.ok (some kept), saved, questions kept document⟩
    | some .proceedAndSuppress =>
      match writeFile saved path (kept.withRedefinitionCheck false) with
      | (silenced, some fault) => ⟨.error fault, silenced, questions kept document⟩
      | (silenced, none) =>
        ⟨.ok (some (kept.withRedefinitionCheck false).reread), silenced, questions kept document⟩

/-- **What is left on the disk**: the document may have been saved, and then the settings, after an
answer that is to hold for good. `leavesKept_readied` and `footprint_readied` look at no more of
`readied` than this. -/
theorem readied_disk {disk : Disk} (path : Path) (kept : Settings)
    (answer : Option Consent.Choice) (input : List (List Char))
    (hread : disk.readText document.path = .ok document.text) :
    ∃ before, (before = disk ∨ Disk.Resaved document.path disk before) ∧
      ((readied path kept document answer input disk).disk = before ∨
        ruling kept document answer input = some .proceedAndSuppress ∧
          (readied path kept document answer input disk).asked = questions kept document ∧
          ∃ fault, writeFile before path (kept.withRedefinitionCheck false) =
            ((readied path kept document answer input disk).disk, fault)) := by
  unfold readied
  cases hsave : disk.writeText document.path document.text with
  | error fault => exact ⟨disk, Or.inl rfl, Or.inl rfl⟩
  | ok saved =>
    refine ⟨saved, Or.inr (Disk.resaved_of_writeText hread hsave), ?_⟩
    cases ruling kept document answer input with
    | none => exact Or.inl rfl
    | some verdict =>
      cases verdict with
      | abort => exact Or.inl rfl
      | proceed => exact Or.inl rfl
      | proceedAndSuppress =>
        refine Or.inr ⟨rfl, ?_⟩
        cases hwrite : writeFile saved path (kept.withRedefinitionCheck false) with
        | mk silenced fault =>
          simp only [hwrite]
          cases fault with
          | none => exact ⟨rfl, none, rfl⟩
          | some fault => exact ⟨rfl, some fault, rfl⟩

/-- **What comes of it at a console**, with a compiler named for the time being or without one. The
outcome is spelled out by `readied`, a function of the disk and of the lines typed. -/
theorem runAt_ready (hkeeper : place.store.keeper = .file path)
    (hperson : place.person = .console answer)
    (hkept : (Settings.Keeper.file path).load place.disk = .ok kept)
    (hread : place.disk.readText document.path = .ok document.text) :
    ∃ console, runAt (ready document) place =
      ((readied path kept document answer place.console.input place.disk).result.map
          (Option.map place.store.overlay),
        { place with
          disk := (readied path kept document answer place.console.input place.disk).disk
          console := console
          asked := place.asked ++
            (readied path kept document answer place.console.input place.disk).asked }) := by
  unfold ready readied
  cases hsave : place.disk.writeText document.path document.text with
  | error fault =>
    refine ⟨place.console, ?_⟩
    rw [runAt_bind_error (runAt_saveDocument_error hsave), List.append_nil]
    rfl
  | ok saved =>
    -- To save what has just been read may change bytes, but no text that can be read.
    have halike := (Disk.resaved_of_writeText hread hsave).alike
    have hsaved : (Settings.Keeper.file path).load saved = .ok kept := by
      rw [Settings.Keeper.load_of_alike halike, hkept]
    have hload := runAt_load_kept { place with disk := saved } hkeeper hsaved
    obtain ⟨console, hproceed⟩ := runAt_mayProceed_console { place with disk := saved } document
      hkeeper hperson hsaved
    refine ⟨console, ?_⟩
    rw [runAt_bind_ok (runAt_saveDocument_ok hsave), runAt_bind_ok hload]
    simp only at hproceed ⊢
    cases hruled : ruling kept document answer place.console.input with
    | none =>
      simp only [hruled] at hproceed
      exact runAt_bind_error hproceed _
    | some verdict =>
      cases verdict with
      | abort =>
        simp only [hruled] at hproceed
        exact runAt_bind_ok hproceed _
      | proceed =>
        simp only [hruled] at hproceed
        rw [runAt_bind_ok hproceed, if_pos rfl]
        have hagain := runAt_load_kept { place with
          disk := saved, console := console, asked := place.asked ++ questions kept document }
          hkeeper hsaved
        exact runAt_bind_ok hagain _
      | proceedAndSuppress =>
        simp only [hruled] at hproceed
        cases hwrite : writeFile saved path (kept.withRedefinitionCheck false) with
        | mk silenced fault =>
          simp only [hwrite] at hproceed
          cases fault with
          | some fault => exact runAt_bind_error hproceed _
          | none =>
            -- The settings for the tool are what is read from the file that has just been written.
            have hjoined := (Settings.Keeper.joined_of_load hkept).withRedefinitionCheck false
            have hreload := load_of_writeFile hjoined hwrite
            rw [runAt_bind_ok hproceed, if_pos rfl]
            have hagain := runAt_load_kept { place with
              disk := silenced, console := console, asked := place.asked ++ questions kept document }
              hkeeper hreload
            exact runAt_bind_ok hagain _

end Action
end SpiceKit
