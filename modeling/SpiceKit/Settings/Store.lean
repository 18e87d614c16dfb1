import SpiceKit.Disk.Text

/-!
# Where settings are kept

Settings are kept in memory or in a file. On top of either, a compiler may be named for the time
being: it is in the settings that are loaded, and never in those that are saved.

A file that is not there means default settings, and saving makes it along with its folders.

A `Store` has two operations. `load` answers with the settings that an action works with, `save`
keeps those that it has changed; between them, `toKeep` sees to it that a compiler named for one
command does not get into the file. What a file holds is read anew each time.
-/

set_option autoImplicit false

namespace SpiceKit
namespace Settings

inductive Keeper where
  | memory (settings : Settings)
  | file (path : Path)
  deriving DecidableEq, Repr

/-- A keeper, and a compiler named for the time being. Commands are given one of these; `load` lays
the named compiler over what is kept, and `toKeep` takes it off again. -/
structure Store where
  keeper : Keeper
  compiler : Option String := none
  deriving DecidableEq, Repr

def ofText (path : Path) (text : List Char) : Except SpiceKit.Fault Settings :=
  match Json.read text with
  -- The first two are no faults of settings: whoever loads settings does not expect them.
  | .error (.oversized digits) => .error (.longInteger text (.oversized digits))
  | .error (.nested container) => .error (.deepNesting text (.nested container))
  | .error fault => .error (.settingsMalformed path text fault)
  | .ok (.object members) =>
    match ofMembers members with
    | .error (.wrongType key found) => .error (.settingsType path key found)
    | .error .hugeTimeLimit => .error .hugeTimeLimit
    | .ok settings => .ok settings
  | .ok _ => .error (.settingsNoObject path)

namespace Keeper

def load (disk : Disk) : Keeper → Except SpiceKit.Fault Settings
  | .memory settings => .ok settings
  | .file path =>
    match disk.has path with
    | .error fault => .error (.system fault)
    -- No file means the defaults; a file that cannot be read is a fault.
    | .ok false => .ok {}
    | .ok true =>
      match disk.readText path with
      | .error reason => .error (.settingsUnreadable path reason)
      | .ok text => ofText path text

end Keeper

namespace Store

def load (disk : Disk) (store : Store) : Except SpiceKit.Fault Settings :=
  (store.keeper.load disk).map fun settings =>
    match store.compiler with
    | none => settings
    | some compiler => { settings with compiler := compiler }

/-- The settings as they are to be kept: the compiler named for the time being is replaced by the
one that is kept. `compiler_not_kept` is what comes of this for a whole command. -/
def toKeep (disk : Disk) (store : Store) (settings : Settings) :
    Except SpiceKit.Fault Settings :=
  match store.compiler with
  | none => .ok settings
  | some _ =>
    -- Looked up anew rather than remembered: the kept compiler may have changed since.
    (store.keeper.load disk).map fun kept => { settings with compiler := kept.compiler }

def unwritable (path : Path) : PathFault → SpiceKit.Fault
  | .system fault => .settingsUnwritable path fault
  | .nullName => .nullName
  | .deep => .deepPath

/-- Writes settings to a file. What was made on the way stays if the writing fails: folders are made
before the file is tried. `load_save` is about the case in which it succeeds. -/
def writeFile (disk : Disk) (path : Path) (settings : Settings) : Disk × Option SpiceKit.Fault :=
  match disk.ensureFolder path.parent with
  | (disk, some fault) => (disk, some (unwritable path fault))
  | (disk, none) =>
    match disk.writeText path (Json.write settings.toJson) with
    | .error fault => (disk, some (unwritable path fault))
    | .ok disk => (disk, none)

/-- Saves settings: the disk and the store afterwards, and the fault if there was one. A store in
memory cannot fail to keep them. -/
def save (disk : Disk) (store : Store) (settings : Settings) :
    Disk × Store × Option SpiceKit.Fault :=
  match store.toKeep disk settings with
  | .error fault => (disk, store, some fault)
  | .ok settings =>
    match store.keeper with
    | .memory _ => (disk, { store with keeper := .memory settings }, none)
    | .file path =>
      let (disk, fault) := writeFile disk path settings
      (disk, store, fault)

end Store
end Settings
end SpiceKit
