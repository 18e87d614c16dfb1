import SpiceKit.Proofs.Cli.Steps

/-!
# A compiler named on the command line is not kept

The option lies over the settings that a command loads, and the settings that a command saves are
those that it has loaded. That it is not saved along with them is a statement about two runs: **two
command lines that say the same but for the compiler leave the same disk**, and what is saved is
what was kept before with the warning on or off (`Cli.compiler_not_kept`).

The first half is read off `Invocation.diskAfter`, which does not look at the compiler. For the
second the saved settings have to be found again in the file, and the file in a disk on which
folders may have been made and a document saved.
-/

set_option autoImplicit false

namespace SpiceKit
namespace Cli

open Work SpiceKit.Action

/-! ## Command lines that say the same but for the compiler -/

/-- The arguments of one option with a value: one argument that holds both, or two. What counts as
an option and what as a value is left to `classify`, as `readOptions` leaves it. -/
inductive IsOption (specs : List Spec) (spec : Spec) (value : String) : List String → Prop
  | attached {argument : String} {text : List Char} (htakes : spec.takesValue = true)
      (hargument : classify specs argument.toList = .option spec (some text))
      (hvalue : value = String.ofList text) : IsOption specs spec value [argument]
  | separate {argument : String} (htakes : spec.takesValue = true)
      (hargument : classify specs argument.toList = .option spec none)
      (hvalue : classify specs value.toList = .word) : IsOption specs spec value [argument, value]

theorem readOptions_append {specs : List Spec} {spec : Spec} {value : String} {taken : List String}
    (h : IsOption specs spec value taken) (rest : List String) :
    readOptions specs (taken ++ rest) =
      (readOptions specs rest).map fun (given, left) => (⟨spec.name, value⟩ :: given, left) := by
  cases h with
  | attached htakes hargument hvalue =>
    subst hvalue
    rw [List.singleton_append, readOptions, hargument]
    simp only [htakes, if_true]
    cases readOptions specs rest <;> rfl
  | separate htakes hargument hvalue =>
    rw [List.cons_append, List.singleton_append, readOptions, hargument]
    simp only [htakes, hvalue, if_true]
    cases readOptions specs rest <;> rfl

/-- An option at the front is the first of those that are given. From there
`SameButCompiler.readOptions` goes on behind it. -/
theorem exists_of_readOptions_append {specs : List Spec} {spec : Spec} {value : String}
    {taken rest left : List String} {given : List Given} (h : IsOption specs spec value taken)
    (hread : readOptions specs (taken ++ rest) = some (given, left)) :
    ∃ inner, readOptions specs rest = some (inner, left) ∧ given = ⟨spec.name, value⟩ :: inner := by
  rw [readOptions_append h, Option.map_eq_some_iff] at hread
  obtain ⟨⟨inner, left⟩, hinner, heq⟩ := hread
  obtain ⟨rfl, rfl⟩ := Prod.mk.inj heq
  exact ⟨inner, hinner, rfl⟩

def globalSpecs : List Spec := [{ name := "--settings" }, { name := "--compiler-path" }]

/-- Two command lines that are the same but for options that name a compiler. Such options may stand
in either of them, several times and anywhere before the command, each in one of the forms of
`IsOption`. -/
inductive SameButCompiler : List String → List String → Prop
  | rest (arguments : List String) : SameButCompiler arguments arguments
  | both {spec : Spec} {value : String} {taken arguments arguments' : List String}
      (htaken : IsOption globalSpecs spec value taken) (h : SameButCompiler arguments arguments') :
      SameButCompiler (taken ++ arguments) (taken ++ arguments')
  | left {spec : Spec} {value : String} {taken arguments arguments' : List String}
      (htaken : IsOption globalSpecs spec value taken) (hname : spec.name = "--compiler-path")
      (h : SameButCompiler arguments arguments') :
      SameButCompiler (taken ++ arguments) arguments'
  | right {spec : Spec} {value : String} {taken arguments arguments' : List String}
      (htaken : IsOption globalSpecs spec value taken) (hname : spec.name = "--compiler-path")
      (h : SameButCompiler arguments arguments') :
      SameButCompiler arguments (taken ++ arguments')

theorem value?_cons_of_ne {option : Given} {name : String} (h : option.name ≠ name)
    (given : List Given) : value? (option :: given) name = value? given name := by
  unfold value?
  rw [List.reverse_cons, List.find?_append]
  simp [h]

theorem value?_cons (option : Given) (given : List Given) (name : String) :
    value? (option :: given) name =
      (value? given name).or (if option.name = name then some option.value else none) := by
  unfold value?
  rw [List.reverse_cons, List.find?_append]
  cases given.reverse.find? fun option => option.name = name with
  | some found => rfl
  | none => by_cases h : option.name = name <;> simp [h]

theorem ne_settings {name : String} (hname : name = "--compiler-path") : name ≠ "--settings" := by
  rw [hname]
  decide

/-- What is read of such command lines differs in the compiler alone. They are the options of the
program, `globalSpecs`, in front of the command. -/
theorem SameButCompiler.readOptions {arguments arguments' : List String}
    (h : SameButCompiler arguments arguments') {given given' : List Given}
    {left left' : List String}
    (hread : Cli.readOptions globalSpecs arguments = some (given, left))
    (hread' : Cli.readOptions globalSpecs arguments' = some (given', left')) :
    left = left' ∧ value? given "--settings" = value? given' "--settings" := by
  induction h generalizing given given' with
  | rest arguments =>
    rw [hread, Option.some.injEq, Prod.mk.injEq] at hread'
    exact ⟨hread'.2, by rw [hread'.1]⟩
  | both htaken _ ih =>
    obtain ⟨inner, hinner, rfl⟩ := exists_of_readOptions_append htaken hread
    obtain ⟨inner', hinner', rfl⟩ := exists_of_readOptions_append htaken hread'
    obtain ⟨hleft, hvalue⟩ := ih hinner hinner'
    exact ⟨hleft, by rw [value?_cons, value?_cons, hvalue]⟩
  -- On one side alone there is an option, but it names a compiler and no settings file.
  | left htaken hname _ ih =>
    obtain ⟨inner, hinner, rfl⟩ := exists_of_readOptions_append htaken hread
    obtain ⟨hleft, hvalue⟩ := ih hinner hread'
    exact ⟨hleft, by rw [value?_cons_of_ne (ne_settings hname), hvalue]⟩
  | right htaken hname _ ih =>
    obtain ⟨inner', hinner', rfl⟩ := exists_of_readOptions_append htaken hread'
    obtain ⟨hleft, hvalue⟩ := ih hread hinner'
    exact ⟨hleft, by rw [value?_cons_of_ne (ne_settings hname), hvalue]⟩

theorem read?_eq_some {arguments : List String} {invocation : Invocation}
    (h : Invocation.read? arguments = some invocation) :
    ∃ given name rest, readOptions globalSpecs arguments = some (given, name :: rest) ∧
      Command.read? name rest = some invocation.command ∧
      invocation.settings = value? given "--settings" := by
  unfold Invocation.read? at h
  obtain ⟨⟨given, left⟩, hread, h⟩ := Option.bind_eq_some_iff.mp h
  cases left with
  | nil => cases h
  | cons name rest =>
    obtain ⟨command, hcommand, h⟩ := Option.bind_eq_some_iff.mp h
    obtain rfl := Option.some.inj h
    exact ⟨given, name, rest, hread, hcommand, rfl⟩

/-- **Such command lines say the same** but for the compiler. In particular they have the same
command (`SameButCompiler.readOptions`). -/
theorem SameButCompiler.read? {arguments arguments' : List String}
    (h : SameButCompiler arguments arguments') {invocation invocation' : Invocation}
    (hread : Invocation.read? arguments = some invocation)
    (hread' : Invocation.read? arguments' = some invocation') :
    { invocation with compiler := none } = { invocation' with compiler := none } := by
  obtain ⟨given, name, rest, hgiven, hcommand, hsettings⟩ := read?_eq_some hread
  obtain ⟨given', name', rest', hgiven', hcommand', hsettings'⟩ := read?_eq_some hread'
  obtain ⟨hleft, hvalue⟩ := h.readOptions hgiven hgiven'
  obtain ⟨rfl, rfl⟩ := List.cons.inj hleft
  rw [hcommand, Option.some.injEq] at hcommand'
  rw [hsettings, hsettings', hvalue, hcommand']

/-! ## What is left on the disk -/

theorem diskAfter_congr {invocation invocation' : Invocation}
    (h : { invocation with compiler := none } = { invocation' with compiler := none })
    (usual : Path) (input : List (List Char)) (disk : Disk) :
    invocation.diskAfter usual input disk = invocation'.diskAfter usual input disk := by
  obtain ⟨settings, compiler, command⟩ := invocation
  obtain ⟨settings', compiler', command'⟩ := invocation'
  obtain ⟨rfl, -, rfl⟩ := Invocation.mk.inj h
  rfl

def Command.sets? : Command → Option Bool
  | .compile _ _ => some false
  | .run _ _ => some false
  | .restoreWarning => some true
  | _ => none

/-- From one disk to another, settings were saved, or an attempt was made: those that were kept in
the file, with the warning on or off. Nothing of the settings that a command works with goes in, so
that a compiler named for the time being cannot be saved. `LeavesKept` allows this or that the disk
is `Alike`. -/
def SavesKept (path : Path) (on : Bool) (disk before after : Disk) : Prop :=
  ∃ kept fault, (Settings.Keeper.file path).load disk = .ok kept ∧
    Settings.Store.writeFile before path (kept.withRedefinitionCheck on) = (after, fault)

/-- The disk is left alike, but for settings that may have been saved as they were kept
(`SavesKept`). It holds of every command (`leavesKept_diskAfter`), and `compiler_not_kept` states
what it amounts to. -/
def LeavesKept (path : Path) (sets : Option Bool) (disk after : Disk) : Prop :=
  ∃ before, Disk.Alike disk before ∧
    (after = before ∨ ∃ on, sets = some on ∧ SavesKept path on disk before after)

theorem LeavesKept.refl (path : Path) (sets : Option Bool) (disk : Disk) :
    LeavesKept path sets disk disk := ⟨disk, .refl disk, Or.inl rfl⟩

theorem leavesKept_savedDisk (path : Path) (sets : Option Bool) {disk : Disk} {document : Document}
    (hread : disk.readText document.path = .ok document.text) :
    LeavesKept path sets disk (savedDisk disk document) := by
  unfold savedDisk
  split
  · rename_i saved hsave
    exact ⟨saved, (Disk.resaved_of_writeText hread hsave).alike, Or.inl rfl⟩
  · exact .refl path sets disk

theorem leavesKept_readied {path : Path} {kept : Settings} {disk : Disk} {document : Document}
    (hkept : (Settings.Keeper.file path).load disk = .ok kept)
    (hread : disk.readText document.path = .ok document.text) (answer : Option Consent.Choice)
    (input : List (List Char)) :
    LeavesKept path (some false) disk (readied path kept document answer input disk).disk := by
  obtain ⟨before, hbefore, hafter⟩ := readied_disk path kept answer input hread
  refine ⟨before, ?_, hafter.imp_right ?_⟩
  · rcases hbefore with rfl | hsaved
    · exact .refl _
    · exact hsaved.alike
  · rintro ⟨-, -, fault, hwrite⟩
    exact ⟨false, rfl, kept, fault, hkept, hwrite⟩

theorem leavesKept_diskWith {path : Path} {sets : Option Bool} {disk : Disk} {file : String}
    {after : Document → Disk}
    (h : ∀ document, disk.readText document.path = .ok document.text →
      LeavesKept path sets disk (after document)) :
    LeavesKept path sets disk (diskWith disk file after) := by
  rcases diskWith_cases disk file after with hsame | ⟨document, hdocument, hafter⟩
  · rw [hsame]
    exact .refl path sets disk
  · rw [hafter]
    exact h document (documentOf?_eq_some hdocument).2

/-- **A command leaves the disk alike, or saves the settings that were kept.** The cases are those
of `diskAfter`, which says for each command what disk it leaves. -/
theorem leavesKept_diskAfter (usual : Path) (invocation : Invocation) (input : List (List Char))
    (disk : Disk) :
    LeavesKept (invocation.keptIn usual) invocation.command.sets? disk
      (invocation.diskAfter usual input disk) := by
  unfold Invocation.diskAfter
  cases hkept : (Settings.Keeper.file (invocation.keptIn usual)).load disk with
  | error fault => exact .refl _ _ disk
  | ok kept =>
    simp only
    cases invocation.command with
    | outline file format => exact .refl _ _ disk
    | lint path format => exact .refl _ _ disk
    | definition file line column => exact .refl _ _ disk
    | compile file answer =>
      exact leavesKept_diskWith fun document hread => leavesKept_readied hkept hread answer input
    | run file answer =>
      exact leavesKept_diskWith fun document hread => leavesKept_readied hkept hread answer input
    | check file => exact leavesKept_diskWith fun document hread => leavesKept_savedDisk _ _ hread
    | restoreWarning =>
      exact ⟨disk, .refl disk, Or.inr ⟨true, rfl, kept, _, hkept, rfl⟩⟩

/-- Settings that were saved are loaded again, if their time limit is read again as itself.
`Binary64.ofText?_toText_self` says that every number is. -/
theorem load_of_savesKept {path : Path} {kept : Settings} {on : Bool} {disk before after : Disk}
    (hkept : (Settings.Keeper.file path).load disk = .ok kept)
    (hlimit : Binary64.ofText? kept.timeLimit.toText = some kept.timeLimit)
    (h : Settings.Store.writeFile before path (kept.withRedefinitionCheck on) = (after, none)) :
    (Settings.Keeper.file path).load after = .ok (kept.withRedefinitionCheck on) := by
  have hjoined := (Settings.Keeper.joined_of_load hkept).withRedefinitionCheck on
  rw [Settings.Store.load_of_writeFile hjoined h, Settings.reread_withRedefinitionCheck,
    Settings.reread_eq_self hlimit]

/-! ## Two command lines -/

theorem runAt_execute {ρ : Type} {conventions : Conventions ρ} {usual : Path}
    {arguments : List String} {invocation : Invocation}
    (h : Invocation.read? arguments = some invocation) (place : Workplace) :
    runAt (executeBy conventions usual arguments) place =
      runAt (invoke conventions usual invocation) place := by
  rw [executeBy, h]

/-- **A compiler named on the command line is not kept.** Two command lines that are the same but
for it leave the same disk. And a command line that saves settings leaves a file from which the
settings that were kept are loaded again, with nothing changed but the warning. The first half is
`diskAfter_congr`, the second `leavesKept_diskAfter` and `load_of_savesKept`. -/
theorem compiler_not_kept {ρ : Type} (conventions : Conventions ρ) (usual : Path)
    {arguments arguments' : List String} (hsame : SameButCompiler arguments arguments') {invocation invocation' : Invocation}
    (hread : Invocation.read? arguments = some invocation)
    (hread' : Invocation.read? arguments' = some invocation') (place : Workplace) :
    (runAt (executeBy conventions usual arguments) place).2.disk =
        (runAt (executeBy conventions usual arguments') place).2.disk ∧
      ∃ before, Disk.Alike place.disk before ∧
        ((runAt (executeBy conventions usual arguments) place).2.disk = before ∨
          ∃ on kept fault, invocation.command.sets? = some on ∧
            (Settings.Keeper.file (invocation.keptIn usual)).load place.disk = .ok kept ∧
            Settings.Store.writeFile before (invocation.keptIn usual)
                (kept.withRedefinitionCheck on) =
              ((runAt (executeBy conventions usual arguments) place).2.disk, fault) ∧
            (fault = none → Binary64.ofText? kept.timeLimit.toText = some kept.timeLimit →
              (Settings.Keeper.file (invocation.keptIn usual)).load
                (runAt (executeBy conventions usual arguments) place).2.disk =
                  .ok (kept.withRedefinitionCheck on))) := by
  rw [runAt_execute hread, runAt_execute hread', disk_invoke, disk_invoke]
  refine ⟨diskAfter_congr (hsame.read? hread hread') usual _ _, ?_⟩
  obtain ⟨before, halike, hafter⟩ :=
    leavesKept_diskAfter usual invocation place.console.input place.disk
  refine ⟨before, halike, hafter.imp_right ?_⟩
  rintro ⟨on, hon, kept, fault, hkept, hwrite⟩
  refine ⟨on, kept, fault, hon, hkept, hwrite, ?_⟩
  rintro rfl hlimit
  exact load_of_savesKept hkept hlimit hwrite

/-- A command line that names a compiler and one that does not, both of which turn the warning on
again where there is no settings file yet. -/
theorem compiler_not_kept_restored :
    SameButCompiler ["--compiler-path", "other", "enable-override-check"]
        ["enable-override-check"] ∧
      Invocation.read? ["--compiler-path", "other", "enable-override-check"] =
        some ⟨none, some "other", .restoreWarning⟩ ∧
      Invocation.read? ["enable-override-check"] = some ⟨none, none, .restoreWarning⟩ ∧
      ∀ place, (runAt (execute (Path.ofString "s.json")
          ["--compiler-path", "other", "enable-override-check"]) place).2.disk =
        (runAt (execute (Path.ofString "s.json") ["enable-override-check"]) place).2.disk := by
  have hnamed : IsOption globalSpecs { name := "--compiler-path" } "other"
      ["--compiler-path", "other"] := .separate rfl (by decide) (by decide)
  have hsame : SameButCompiler (["--compiler-path", "other"] ++ ["enable-override-check"])
      ["enable-override-check"] := .left hnamed rfl (.rest _)
  have hread : Invocation.read? ["--compiler-path", "other", "enable-override-check"] =
      some ⟨none, some "other", .restoreWarning⟩ := by decide
  have hread' : Invocation.read? ["enable-override-check"] =
      some ⟨none, none, .restoreWarning⟩ := by decide
  exact ⟨hsame, hread, hread', fun place =>
    (compiler_not_kept standard (Path.ofString "s.json") hsame hread hread' place).1⟩

end Cli
end SpiceKit
