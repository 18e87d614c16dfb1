import SpiceKit.Tool.Chain

/-!
# Actions done at a workplace

`Work.runAt work place` is what comes of an action at a workplace: its result or its fault, and the
workplace afterwards. The lemmas here are the only ones that open the monad. Each primitive action
has one equation, a sequence is run by `runAt_bind_ok` and `runAt_bind_error`, and what an action
leaves alone is said by `OnlyLaunches`: **a tool that is started changes nothing but the list of
tools that were started.**

The equations of settings are for a store that keeps them in memory, with no compiler named on top;
that is a store which hands out what it was last given.
-/

set_option autoImplicit false

namespace SpiceKit

namespace Settings

/-- The store that keeps settings in memory and nothing on top of them. The results on histories of
actions start from such a store, so that a workplace is described by its settings. `load_inMemory`
and `save_inMemory` are all that is needed of it. -/
def inMemory (settings : Settings) : Store := { keeper := .memory settings }

theorem load_inMemory (disk : Disk) (settings : Settings) :
    settings.inMemory.load disk = .ok settings := rfl

theorem save_inMemory (disk : Disk) (settings settings' : Settings) :
    settings.inMemory.save disk settings' = (disk, settings'.inMemory, none) := rfl

end Settings

/-- The fault of an action whose document cannot be saved: a fault of the tool, but for a path with
a NUL, which leaves as `Fault.nullName`. -/
def Document.unsaved (document : Document) : PathFault → Fault
  | .system fault => .tool (.unsaved document.path fault)
  | .nullName => .nullName
  | .deep => .deepPath

namespace Work

variable {α β : Type} {place place' : Workplace} {settings : Settings}

/-- An action done at a workplace: what comes of it, and the workplace afterwards. Every result on
actions is stated with it, and the equations below take it apart along the action, so that no proof
unfolds the monad. The main one is `runAt_bind`. -/
def runAt (work : Work α) (place : Workplace) : Except Fault α × Workplace :=
  StateT.run (ExceptT.run work) place

/-! ## Sequences -/

theorem runAt_pure (a : α) (place : Workplace) : runAt (pure a) place = (.ok a, place) := rfl

theorem runAt_throw (fault : Fault) (place : Workplace) :
    runAt (throw fault : Work α) place = (.error fault, place) := rfl

theorem runAt_get (place : Workplace) : runAt get place = (.ok place, place) := rfl

theorem runAt_bind_ok {work : Work α} {a : α} (h : runAt work place = (.ok a, place'))
    (next : α → Work β) : runAt (work >>= next) place = runAt (next a) place' := by
  unfold runAt at h ⊢
  simp only [ExceptT.run_bind, StateT.run_bind, h]
  rfl

theorem runAt_bind_error {work : Work α} {fault : Fault}
    (h : runAt work place = (.error fault, place')) (next : α → Work β) :
    runAt (work >>= next) place = (.error fault, place') := by
  unfold runAt at h ⊢
  simp only [ExceptT.run_bind, StateT.run_bind, h]
  rfl

theorem runAt_bind (work : Work α) (next : α → Work β) (place : Workplace) :
    runAt (work >>= next) place =
      match runAt work place with
      | (.ok a, place') => runAt (next a) place'
      | (.error fault, place') => (.error fault, place') := by
  cases hrun : runAt work place with
  | mk result place' =>
    cases result with
    | ok a => exact runAt_bind_ok hrun next
    | error fault => exact runAt_bind_error hrun next

/-- A fault is caught where it was met, and what was done before it stays done. This is the one
place where the order of the two monads shows. `reporting` is made of it. -/
theorem runAt_tryCatch (work : Work α) (handler : Fault → Work α) (place : Workplace) :
    runAt (tryCatch work handler) place =
      match runAt work place with
      | (.ok a, place') => (.ok a, place')
      | (.error fault, place') => runAt (handler fault) place' := by
  cases hrun : runAt work place with
  | mk result place' =>
    unfold runAt at hrun ⊢
    cases result with
    | ok a =>
      simp only [ExceptT.run_tryCatch, StateT.run_bind, hrun]
      rfl
    | error fault =>
      simp only [ExceptT.run_tryCatch, StateT.run_bind, hrun]
      rfl

/-! ## The primitive actions -/

theorem runAt_load (place : Workplace) :
    runAt loadSettings place = (place.store.load place.disk, place) := by
  unfold loadSettings
  rw [runAt_bind_ok (runAt_get place)]
  cases place.store.load place.disk <;> rfl

theorem runAt_save_ok {settings : Settings} {disk : Disk} {store : Settings.Store}
    (h : place.store.save place.disk settings = (disk, store, none)) :
    runAt (saveSettings settings) place = (.ok (), { place with disk := disk, store := store }) := by
  unfold saveSettings
  rw [runAt_bind_ok (runAt_get place), h]
  rfl

theorem runAt_save_error {settings : Settings} {disk : Disk} {store : Settings.Store}
    {fault : Fault} (h : place.store.save place.disk settings = (disk, store, some fault)) :
    runAt (saveSettings settings) place =
      (.error fault, { place with disk := disk, store := store }) := by
  unfold saveSettings
  rw [runAt_bind_ok (runAt_get place), h]
  rfl

theorem runAt_loadSettings (h : place.store = settings.inMemory) :
    runAt loadSettings place = (.ok settings, place) := by
  unfold loadSettings
  rw [runAt_bind_ok (runAt_get place), h, Settings.load_inMemory]
  rfl

theorem runAt_saveSettings (h : place.store = settings.inMemory) (settings' : Settings) :
    runAt (saveSettings settings') place = (.ok (), { place with store := settings'.inMemory }) := by
  unfold saveSettings
  rw [runAt_bind_ok (runAt_get place), h, Settings.save_inMemory]
  rfl

theorem runAt_saveDocument_ok {document : Document} {disk : Disk}
    (h : place.disk.writeText document.path document.text = .ok disk) :
    runAt (saveDocument document) place = (.ok (), { place with disk := disk }) := by
  unfold saveDocument
  rw [runAt_bind_ok (runAt_get place), h]
  rfl

theorem runAt_saveDocument_error {document : Document} {fault : PathFault}
    (h : place.disk.writeText document.path document.text = .error fault) :
    runAt (saveDocument document) place = (.error (document.unsaved fault), place) := by
  unfold saveDocument
  rw [runAt_bind_ok (runAt_get place), h]
  cases fault <;> rfl

theorem runAt_ask {answer : Option Consent.Choice} (h : place.person = .scripted answer)
    (redefinitions : List Redefinition) :
    runAt (ask redefinitions) place =
      (.ok answer, { place with asked := place.asked ++ [redefinitions] }) := by
  have hnoted : runAt (modify fun place => { place with asked := place.asked ++ [redefinitions] })
      place = (.ok (), { place with asked := place.asked ++ [redefinitions] }) := rfl
  unfold ask
  rw [runAt_bind_ok hnoted, runAt_bind_ok (runAt_get _), h]
  rfl

theorem runAt_launch (launched : Tool.Launch) (place : Workplace) :
    runAt (launch launched) place =
      (.ok place.tools, { place with launches := place.launches ++ [launched] }) := rfl

/-! ## Asking at a console -/

/-- The choice of somebody at a console: the one made in advance, or else the one that is typed.
There is none if the input ends before a line makes a choice. `runAt_askAtConsole` has it as the
answer. -/
def reply (answer : Option Consent.Choice) (input : List (List Char)) : Option Consent.Choice :=
  answer.or (Console.dialogue input).2.1

/-- A question at the console is answered, or the input ends first; only the console changes. What
is typed makes the answer by `reply`. -/
theorem runAt_askAtConsole (redefinitions : List Redefinition) (answer : Option Consent.Choice)
    (place : Workplace) :
    ∃ console, runAt (askAtConsole redefinitions answer) place =
      (match reply answer place.console.input with
        | some choice => .ok (some choice)
        | none => .error .endOfInput, { place with console := console }) := by
  obtain ⟨warned, hinput, hwarned⟩ : ∃ warned : Console, warned.input = place.console.input ∧
      runAt (display (.line (Consent.warning redefinitions))) place =
        (.ok (), { place with console := warned }) :=
    ⟨place.console.add (.line (Consent.warning redefinitions)), rfl, rfl⟩
  unfold askAtConsole reply
  rw [runAt_bind_ok hwarned]
  cases answer with
  | some choice => exact ⟨warned, rfl⟩
  | none =>
    have hchoice : warned.ask.1 = (Console.dialogue place.console.input).2.1 := by
      rw [← hinput]
      rfl
    rw [Option.none_or, ← hchoice]
    simp only
    rw [runAt_bind_ok (runAt_get _)]
    generalize warned.ask = outcome
    obtain ⟨choice, console⟩ := outcome
    refine ⟨console, ?_⟩
    cases choice with
    | none => rfl
    | some choice => rfl

/-! ## What is left as it is -/

/-- The action leaves as it is what is seen of the workplace. What is seen is a parameter `look`, so
the same lemmas serve for the disk, for the tools that were started and for the questions that were
asked. -/
def Keeps {γ : Type} (look : Workplace → γ) (work : Work α) : Prop :=
  ∀ place, look (runAt work place).2 = look place

namespace Keeps

variable {γ : Type} {look : Workplace → γ}

theorem pure (a : α) : Keeps look (Pure.pure a : Work α) := fun _ => rfl

theorem throw (fault : Fault) : Keeps look (MonadExcept.throw fault : Work α) := fun _ => rfl

theorem get : Keeps look (MonadState.get : Work Workplace) := fun _ => rfl

theorem bind {work : Work α} {next : α → Work β} (h : Keeps look work)
    (hnext : ∀ a, Keeps look (next a)) : Keeps look (work >>= next) := by
  intro place
  have hwork := h place
  rw [runAt_bind]
  cases hrun : runAt work place with
  | mk result place' =>
    rw [hrun] at hwork
    cases result with
    | ok a => exact (hnext a place').trans hwork
    | error fault => exact hwork

theorem forM {act : β → Work PUnit} (h : ∀ b, Keeps look (act b)) (bs : List β) :
    Keeps look (bs.forM act) := by
  induction bs with
  | nil => exact .pure _
  | cons b bs ih => exact .bind (h b) fun _ => ih

end Keeps

/-! ## How an action ends -/

/-- What an action ends with, if it ends without a fault, is allowed. The statuses of commands are
bounded with it. `Ends.bind` asks nothing of the first action, for the answer is that of the last. -/
def Ends (allowed : α → Prop) (work : Work α) : Prop :=
  ∀ place a, (runAt work place).1 = .ok a → allowed a

namespace Ends

variable {allowed : α → Prop}

theorem pure {a : α} (h : allowed a) : Ends allowed (Pure.pure a) := by
  intro place b hb
  obtain rfl := Except.ok.inj hb
  exact h

theorem throw (fault : Fault) : Ends allowed (MonadExcept.throw fault : Work α) := by
  intro place a ha
  cases ha

theorem bind (work : Work β) {next : β → Work α} (h : ∀ b, Ends allowed (next b)) :
    Ends allowed (work >>= next) := by
  intro place a ha
  rw [runAt_bind] at ha
  cases hrun : runAt work place with
  | mk result place' =>
    rw [hrun] at ha
    cases result with
    | ok b => exact h b place' a ha
    | error fault => cases ha

theorem tryCatch {work : Work α} {handler : Fault → Work α} (h : Ends allowed work)
    (hhandler : ∀ fault, Ends allowed (handler fault)) :
    Ends allowed (MonadExcept.tryCatch work handler) := by
  intro place a ha
  have hwork := h place a
  rw [runAt_tryCatch] at ha
  cases hrun : runAt work place with
  | mk result place' =>
    rw [hrun] at ha hwork
    cases result with
    | ok b => exact hwork ha
    | error fault => exact hhandler fault place' a ha

end Ends

/-- An action at a workplace ends with a fault. With `fails_bind_iff` and its like, the faults of a
command are found from those of its parts, each by one equivalence. -/
def Fails (work : Work α) (place : Workplace) (fault : Fault) : Prop :=
  (runAt work place).1 = .error fault

theorem fails_pure_iff {a : α} {fault : Fault} : Fails (pure a) place fault ↔ False :=
  ⟨(fun h => nomatch h), False.elim⟩

theorem fails_throw_iff {fault fault' : Fault} :
    Fails (throw fault : Work α) place fault' ↔ fault = fault' :=
  ⟨fun h => Except.error.inj h, fun h => congrArg Except.error h⟩

/-- A sequence ends with a fault of its first action, or with one of what follows it. All that is
said about escaping faults is chained with it. -/
theorem fails_bind_iff {work : Work α} {next : α → Work β} {fault : Fault} :
    Fails (work >>= next) place fault ↔ Fails work place fault ∨
      ∃ a place', runAt work place = (.ok a, place') ∧ Fails (next a) place' fault := by
  unfold Fails
  rw [runAt_bind]
  cases hrun : runAt work place with
  | mk result place' =>
    cases result with
    | ok a =>
      constructor
      · exact fun h => Or.inr ⟨a, place', rfl, h⟩
      · rintro (hfirst | ⟨b, place'', hsame, h⟩)
        · cases hfirst
        · cases hsame
          exact h
    | error fault => simp

/-- An action ends with no other faults than those that are allowed, at whatever workplace it is
done. It is what is needed of the parts whose faults are all reported. Unlike `Fails` it is kept by
every way of putting actions together (`FailsOnly.bind`). -/
def FailsOnly (allowed : Fault → Prop) (work : Work α) : Prop :=
  ∀ place fault, Fails work place fault → allowed fault

namespace FailsOnly

variable {allowed : Fault → Prop}

theorem pure (a : α) : FailsOnly allowed (Pure.pure a : Work α) := fun _ _ h => nomatch h

theorem throw {fault : Fault} (h : allowed fault) :
    FailsOnly allowed (MonadExcept.throw fault : Work α) :=
  fun _ _ hfails => fails_throw_iff.mp hfails ▸ h

theorem display (shown : Display) : FailsOnly allowed (display shown) := fun _ _ h => nomatch h

theorem complain (line : String) : FailsOnly allowed (complain line) := fun _ _ h => nomatch h

theorem launch (launched : Tool.Launch) : FailsOnly allowed (launch launched) :=
  fun _ _ h => nomatch h

theorem bind {work : Work α} {next : α → Work β} (h : FailsOnly allowed work)
    (hnext : ∀ a, FailsOnly allowed (next a)) : FailsOnly allowed (work >>= next) := by
  intro place fault hfails
  rcases fails_bind_iff.mp hfails with hfirst | ⟨a, place', -, hrest⟩
  · exact h place fault hfirst
  · exact hnext a place' fault hrest

theorem forM {act : β → Work PUnit} (h : ∀ b, FailsOnly allowed (act b)) (bs : List β) :
    FailsOnly allowed (bs.forM act) := by
  induction bs with
  | nil => exact .pure _
  | cons b bs ih => exact .bind (h b) fun _ => ih

end FailsOnly

/-! ## Tools -/

/-- The action may start tools and changes nothing else. All that the tools of `Tool.compile`,
`Tool.check` and `Tool.run` do to a workplace is of this kind. -/
def OnlyLaunches (work : Work α) : Prop :=
  ∀ place, ∃ started, (runAt work place).2 = { place with launches := place.launches ++ started }

namespace OnlyLaunches

/-- What does not show which tools were started is left as it is. It turns `OnlyLaunches` into a
`Keeps`. -/
theorem keeps {γ : Type} {look : Workplace → γ} {work : Work α} (h : OnlyLaunches work)
    (hlook : ∀ place launches, look { place with launches := launches } = look place) :
    Keeps look work := by
  intro place
  obtain ⟨started, hstarted⟩ := h place
  rw [hstarted, hlook]

theorem pure (a : α) : OnlyLaunches (Pure.pure a) := by
  intro place
  exact ⟨[], by rw [runAt_pure, List.append_nil]⟩

theorem throw (fault : Fault) : OnlyLaunches (MonadExcept.throw fault : Work α) := by
  intro place
  exact ⟨[], by rw [runAt_throw, List.append_nil]⟩

theorem launch (launched : Tool.Launch) : OnlyLaunches (Work.launch launched) := by
  intro place
  exact ⟨[launched], by rw [runAt_launch]⟩

theorem bind {work : Work α} {next : α → Work β} (h : OnlyLaunches work)
    (hnext : ∀ a, OnlyLaunches (next a)) : OnlyLaunches (work >>= next) := by
  intro place
  obtain ⟨started, hstarted⟩ := h place
  cases hrun : runAt work place with
  | mk result place' =>
    rw [hrun] at hstarted
    cases result with
    | error fault => exact ⟨started, by rw [runAt_bind_error hrun]; exact hstarted⟩
    | ok a =>
      obtain rfl : place' = _ := hstarted
      obtain ⟨more, hmore⟩ := hnext a _
      exact ⟨started ++ more, by rw [runAt_bind_ok hrun, hmore, List.append_assoc]⟩

end OnlyLaunches

end Work

namespace Tool

open Work

theorem onlyLaunches_words (setting : WideText) : OnlyLaunches (words setting) := by
  unfold words
  split
  · exact .pure _
  · exact .throw _

theorem onlyLaunches_capture (settings : Settings) (task : Task) (arguments : List WideText) :
    OnlyLaunches (capture settings task arguments) := by
  refine .bind (onlyLaunches_words _) fun program => .bind (.launch _) fun outcome => ?_
  split
  · exact .pure _
  · exact .throw _

theorem onlyLaunches_compile (settings : Settings) (path : Path) :
    OnlyLaunches (compile settings path) := by
  refine .bind (onlyLaunches_capture _ _ _) fun complaint => ?_
  split
  · exact .pure _
  · exact .throw _

theorem onlyLaunches_check (settings : Settings) (path : Path) :
    OnlyLaunches (check settings path) := by
  refine .bind (onlyLaunches_capture _ _ _) fun complaint => ?_
  split
  · exact .pure _
  · exact .throw _

theorem onlyLaunches_run (settings : Settings) (path : Path) :
    OnlyLaunches (run settings path) := by
  refine .bind (onlyLaunches_words _) fun program => .bind (.launch _) fun outcome => ?_
  split
  · exact .pure _
  · exact .throw _
  · exact .throw _

end Tool
end SpiceKit
