import SpiceKit.Disk.Text
import SpiceKit.Ignore.Pattern
import SpiceKit.Analysis

/-!
# The sources of a workspace

All source files below a folder, but for those in `.git` folders and those that a `.gitignore` file
excludes. Such a file speaks of its own folder and everything below; a path is excluded as soon as
one of the files above it says so, and what lies in an excluded folder is not looked at, its own
`.gitignore` included. What such a file says is a matter of the `Dialect` it is read in.

The walk goes through a folder before the folders in it, and through those in order of name. That
order shows only in which fault is met first: the files found are sorted by path.

The walk makes paths that nobody has written, and they may be too long. A folder that cannot be
listed is passed over in silence; a pattern file that cannot be looked for ends the walk. No limit
is set to the depth of a tree: a walk that keeps a frame of its caller's stack for each folder it is
in, so that it ends with a fault about a thousand folders down (where `Json.nestingLimit` and
`Disk.mostMissing` come from), is left out here.
-/

set_option autoImplicit false

namespace SpiceKit

/-- A way to read pattern files: what the text of one says, and which paths that excludes. -/
structure Ignore.Dialect (ρ : Type) where
  read : List Char → Except Fault ρ
  excludes : ρ → List Char → Bool

/-- Pattern files as lists of patterns, a line each: the dialect of the program. What is proved
about a walk holds in every dialect, this one among them. -/
def Ignore.standard : Ignore.Dialect (List Ignore.Pattern) := ⟨Ignore.ofText, Ignore.excludes⟩

namespace Workspace

variable {ρ : Type}

/-- What one pattern file says, and the names from its folder to the folder in hand. A walk carries
one of these for every pattern file above, and asks all of them of each name. -/
structure Layer (ρ : Type) where
  rules : ρ
  below : List (List Char)
  deriving DecidableEq, Repr

def Layer.descend (name : List Char) (layer : Layer ρ) : Layer ρ :=
  { layer with below := layer.below ++ [name] }

/-- A path as a pattern file sees it. The path of a folder ends in a slash, so that a pattern can
speak of folders alone. -/
def seenAs (isFolder : Bool) (names : List (List Char)) : List Char :=
  Path.joinNames names ++ if isFolder then ['/'] else []

/-- Whether a layer excludes a file or a folder in the folder in hand. The dialect sees the path
from the folder of its own pattern file, as `Spared` does, where no walk is mentioned. -/
def Layer.excludes (dialect : Ignore.Dialect ρ) (isFolder : Bool) (name : List Char)
    (layer : Layer ρ) : Bool :=
  dialect.excludes layer.rules (seenAs isFolder (layer.below ++ [name]))

/-- A file that was found: the names that lead to it from the root. Two files of a proper tree have
different paths (`path_injOn`), so sorting by path leaves nothing undecided. -/
structure Found where
  names : List (List Char)
  deriving DecidableEq, Repr

def Found.path (found : Found) : List Char := Path.joinNames found.names

def Found.lift (name : List Char) (found : Found) : Found :=
  { found with names := name :: found.names }

def patternFile : List Char := ".gitignore".toList

def hiddenFolder : List Char := ".git".toList

def isSourceName (name : List Char) : Bool :=
  Vocabulary.sourceSuffix.toList.isSuffixOf name

def writeBehind (text name : List Char) : List Char :=
  if text.getLast? = some '/' then text ++ name else text ++ '/' :: name

/-- What a walk from a root writes to list the folder at the end of some names. The root stays as it
is written, a lone dot included; `ownLayer` looks up its file by the tidied path, which may be
shorter. -/
def listingText (root : Path) (names : List (List Char)) : List Char :=
  names.foldl writeBehind root.toText

/-- Whether a folder on a walk can be listed, for which what is written has to be short enough. A
folder that is not listed hides all that is below it, in silence (`walk_eq_nil_of_not_listed`). -/
def canList (root : Path) (names : List (List Char)) : Bool :=
  !(Disk.exceeds Disk.pathLimit (listingText root names))

/-- The layers that the pattern file of a folder adds, if there is one: none or one. What this fails
with is all that a walk can fail with (`faultsOnly_walk`). -/
def ownLayer (dialect : Ignore.Dialect ρ) (folder : Path) (entries : List (List Char × Node)) :
    Except Fault (List (Layer ρ)) :=
  let file := folder.child patternFile
  -- It is looked up before anybody knows that there is one, so too long a path is a fault.
  if Disk.exceeds Disk.pathLimit file.toText then
    .error (.unreadable (.path (.system (Disk.faultAt file .tooLong))))
  else match Node.find? patternFile entries with
    | some (.file bytes) =>
      match Disk.textOfBytes bytes with
      | .error fault => .error (.unreadable (.encoding fault))
      | .ok text => (dialect.read text).map fun rules => [⟨rules, []⟩]
    -- A folder of that name is no pattern file.
    | _ => .ok []

def sourcesIn (dialect : Ignore.Dialect ρ) (layers : List (Layer ρ))
    (entries : List (List Char × Node)) : List Found :=
  entries.filterMap fun
    | (name, .file _) =>
      if isSourceName name && !(layers.any (·.excludes dialect false name)) then some ⟨[name]⟩
      else none
    | (_, .folder _) => none

/-- Whether a folder in the folder in hand is looked at. One that is not is hidden with all that is
below it, its own pattern file included. -/
def isOpen (dialect : Ignore.Dialect ρ) (layers : List (Layer ρ)) (name : List Char) : Bool :=
  name ≠ hiddenFolder && !(layers.any (·.excludes dialect true name))

mutual

/-- The source files below a node at some names from the root, under the layers of the folders above
it. What it finds is characterised by `mem_walk`, without a walk; that it finds each file once is
`nodup_walk`. -/
def walk (dialect : Ignore.Dialect ρ) (root : Path) (place : List (List Char))
    (layers : List (Layer ρ)) : Node → Except Fault (List Found)
  | .file _ => .ok []
  | .folder entries =>
    if canList root place then do
      -- Layers add up: a pattern file cannot take back what one above it excludes.
      let layers := layers ++ (← ownLayer dialect (root.below place) entries)
      return sourcesIn dialect layers entries ++ (← walkFolders dialect root place layers entries)
    -- What cannot be listed is passed over in silence.
    else .ok []

def walkFolders (dialect : Ignore.Dialect ρ) (root : Path) (place : List (List Char))
    (layers : List (Layer ρ)) : List (List Char × Node) → Except Fault (List Found)
  | [] => .ok []
  | (_, .file _) :: entries => walkFolders dialect root place layers entries
  | (name, .folder inner) :: entries =>
    if isOpen dialect layers name then do
      let found ← walk dialect root (place ++ [name]) (layers.map (Layer.descend name))
        (.folder inner)
      return found.map (Found.lift name) ++ (← walkFolders dialect root place layers entries)
    -- The pattern file of a folder that is not open is never read.
    else walkFolders dialect root place layers entries

end

/-- The source files below a node to which a path leads, sorted by path. No two of them have one
path, so the order is strict (`discover_sorted`). -/
def discover (dialect : Ignore.Dialect ρ) (path : Path) (root : Node) :
    Except Fault (List Found) :=
  (walk dialect path [] [] root).map fun found =>
    found.mergeSort fun a b => !(decide (b.path < a.path))

/-- The source files below a path, with pattern files read in a dialect; none when no folder can be
found there. `sourcesBy_lists` says which files these are, for every dialect. -/
def sourcesBy (dialect : Ignore.Dialect ρ) (disk : Disk) (path : Path) :
    Except Fault (List Found) :=
  if path.hasNull then .error .nullName
  else match disk.find path with
    | .ok (some root) => discover dialect path root
    | .ok none => .ok []
    | .error _ => .ok []

def sources (disk : Disk) (path : Path) : Except Fault (List Found) :=
  sourcesBy Ignore.standard disk path

/-! ## Reports -/

structure Report where
  path : List Char
  source : Source
  analysis : Analysis

structure Failure where
  path : List Char
  reason : Unreadable
  deriving DecidableEq, Repr

/-- Reads and analyzes a file that was found below a path. It reads nothing but that file
(`examine_eq`), so one file never stands in the way of another. -/
def examine (disk : Disk) (base : Path) (found : Found) : Except Failure Report :=
  match disk.readText (base.below found.names) with
  | .error reason => .error ⟨found.path, reason⟩
  | .ok text =>
    let source := Source.ofText text
    .ok ⟨found.path, source, source.analyze⟩

/-- The reports on the files that could be read, and the failures of the others. Both lists keep the
order of the files (`examineAll_eq`). -/
def examineAll (disk : Disk) (base : Path) : List Found → List Report × List Failure
  | [] => ([], [])
  | found :: rest =>
    let (reports, failures) := examineAll disk base rest
    match examine disk base found with
    | .ok report => (report :: reports, failures)
    | .error failure => (reports, failure :: failures)

/-- Analyzes the files that a path stands for: the file there, or the sources below it, with pattern
files read in a dialect. A file that is named is analyzed whatever its name is and whatever pattern
files say. -/
def surveyBy (dialect : Ignore.Dialect ρ) (disk : Disk) (path : Path) :
    Except Fault (List Report × List Failure) :=
  match disk.find path with
  -- Here a refusal ends the survey; behind this point it is the failure of one file.
  | .error fault => .error (.unreadable (.path (.system fault)))
  | .ok (some (.file _)) => .ok (examineAll disk path.parent [⟨[path.name]⟩])
  | .ok _ => (sourcesBy dialect disk path).map (examineAll disk path)

def survey (disk : Disk) (path : Path) : Except Fault (List Report × List Failure) :=
  surveyBy Ignore.standard disk path

end Workspace
end SpiceKit
