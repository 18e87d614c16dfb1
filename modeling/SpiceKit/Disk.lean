import SpiceKit.Encoding.Utf8
import SpiceKit.FileTree
import SpiceKit.Path
import SpiceKit.Text.Quoted

/-!
# The disk

A tree of files and the folder in which paths that are not rooted start. A path is followed name by
name: each name but the last must be that of a folder, and `..` leads to the folder above. Names and
paths have a greatest length in bytes, and a name is measured when it is looked up, so that a folder
missing before it is found missing first. What can go wrong is an `OsFault`, which names the path as
it was given.

A path with a NUL in it is never handed to the system: nothing is there, and doing something with it
is a fault of its own.
-/

set_option autoImplicit false

namespace SpiceKit

inductive Refusal where
  | noEntry
  | denied
  | exists
  | notFolder
  | isFolder
  | tooLong
  deriving DecidableEq, Repr

namespace Refusal

def code : Refusal → Nat
  | .noEntry => 2
  | .denied => 13
  | .exists => 17
  | .notFolder => 20
  | .isFolder => 21
  | .tooLong => 36

def text : Refusal → String
  | .noEntry => "No such file or directory"
  | .denied => "Permission denied"
  | .exists => "File exists"
  | .notFolder => "Not a directory"
  | .isFolder => "Is a directory"
  | .tooLong => "File name too long"

end Refusal

structure OsFault where
  refusal : Refusal
  subject : WideText
  deriving DecidableEq, Repr

def OsFault.message (fault : OsFault) : String :=
  "[Errno " ++ toString fault.refusal.code ++ "] " ++ fault.refusal.text ++ ": " ++
    fault.subject.quoted

/-- Why something cannot be done with a path: the system refuses, the path holds a NUL, or too many
folders are missing on its way. -/
inductive PathFault where
  | system (fault : OsFault)
  | nullName
  | deep
  deriving DecidableEq, Repr

def PathFault.message : PathFault → String
  | .system fault => fault.message
  | .nullName => "embedded null byte"
  | .deep => "maximum recursion depth exceeded while calling a Python object"

/-- A tree of files, and the names that lead to the current folder. Permissions, links and times are
left out, so the refusals of a disk are those that the tree and the lengths of names and paths give
rise to. -/
structure Disk where
  tree : Node
  here : List (List Char)

namespace Disk

def nameLimit : Nat := 255

def pathLimit : Nat := 4095

def exceeds (limit : Nat) (text : List Char) : Bool := limit < (Utf8.encode text).length

/-- Follows names from a place that is itself given by names. The last place need not exist, but
every name before it must lead to a folder, also where a later `..` leads out again. -/
def follow (tree : Node) : List (List Char) → List (List Char) → Except Refusal (List (List Char))
  | place, [] => .ok place
  | place, name :: names =>
    -- Only a folder can be left by a name, be it the one that leads up.
    match tree.get? place with
    | none => .error .noEntry
    | some (.file _) => .error .notFolder
    | some (.folder _) =>
      -- The folder above the top is the top.
      if name = ['.', '.'] then follow tree place.dropLast names
      else if exceeds nameLimit name then .error .tooLong
      else follow tree (place ++ [name]) names

def origin (disk : Disk) (path : Path) : List (List Char) :=
  if path.root = .here then disk.here else []

def place (disk : Disk) (path : Path) : Except Refusal (List (List Char)) :=
  if exceeds pathLimit path.toText then .error .tooLong
  else follow disk.tree (disk.origin path) path.names

/-- The place of a path by its names alone, whether or not they exist. -/
def lexicalPlace (disk : Disk) (path : Path) : List (List Char) :=
  path.names.foldl (fun place name => if name = ['.', '.'] then place.dropLast else place ++ [name])
    (disk.origin path)

/-! ## Looking -/

def faultAt (path : Path) (refusal : Refusal) : OsFault := ⟨refusal, path.toString⟩

def saysAbsent (refusal : Refusal) : Bool := refusal = .noEntry || refusal = .notFolder

/-- The node that a path leads to, if there is one. To find nothing is no fault, but a name or a
path that is too long is. -/
def find (disk : Disk) (path : Path) : Except OsFault (Option Node) :=
  -- No name on a disk holds a NUL: to ask for one is in order, to use one (`target`) is not.
  if path.hasNull then .ok none
  else match disk.place path with
    | .ok place => .ok (disk.tree.get? place)
    | .error refusal =>
      if saysAbsent refusal then .ok none else .error (faultAt path refusal)

def has (disk : Disk) (path : Path) : Except OsFault Bool :=
  (disk.find path).map Option.isSome

def hasFile (disk : Disk) (path : Path) : Except OsFault Bool :=
  (disk.find path).map fun node => node.any Node.isFile

def hasFolder (disk : Disk) (path : Path) : Except OsFault Bool :=
  (disk.find path).map fun node => node.any Node.isFolder

/-! ## Reading and writing -/

/-- The place of a path with which something is to be done. Unlike in `find`, that something is
missing on the way is a refusal here, and so is a NUL. -/
def target (disk : Disk) (path : Path) : Except PathFault (List (List Char)) :=
  if path.hasNull then .error .nullName
  else match disk.place path with
    | .ok place => .ok place
    | .error refusal => .error (.system (faultAt path refusal))

def refuse {α : Type} (path : Path) (refusal : Refusal) : Except PathFault α :=
  .error (.system (faultAt path refusal))

def read (disk : Disk) (path : Path) : Except PathFault (List UInt8) := do
  let place ← disk.target path
  match disk.tree.get? place with
  | none => refuse path .noEntry
  | some (.folder _) => refuse path .isFolder
  | some (.file bytes) => return bytes

/-- Writes a file, new or over an old one. Its folder must be there, and a path without names is
that of a folder. -/
def write (disk : Disk) (path : Path) (bytes : List UInt8) : Except PathFault Disk := do
  let place ← disk.target path
  if path.names = [] then refuse path .isFolder
  else match disk.tree.get? place with
    | some (.folder _) => refuse path .isFolder
    | _ => return { disk with tree := disk.tree.put place (.file bytes) }

/-- Makes one folder. Its own folder must be there, and nothing else in its place. -/
def makeFolder (disk : Disk) (path : Path) : Except PathFault Disk := do
  let place ← disk.target path
  match disk.tree.get? place with
  | some _ => refuse path .exists
  | none => return { disk with tree := disk.tree.put place .emptyFolder }

def orPresent (disk : Disk) (path : Path) : Except PathFault Disk → Disk × Option PathFault
  | .ok disk' => (disk', none)
  -- Whatever the system refused, a folder that is there will do.
  | .error (.system fault) =>
    match disk.hasFolder path with
    | .ok true => (disk, none)
    | .ok false => (disk, some (.system fault))
    | .error fault => (disk, some (.system fault))
  | .error fault => (disk, some fault)

/-- How many folders, each in the next, can be looked for on the way up to one that is there. Like
`Json.nestingLimit` it stands for what is left of the stack of the caller, and one that stands
higher up can try a few folders more. No result on `ensureFolder` needs more of it than that one
folder may be tried. -/
def mostMissing : Nat := 986

/-- Makes a folder and those above it that are missing, of which so many may be tried. Folders made
before a fault stay. -/
def ensureWithin : Nat → Disk → Path → Disk × Option PathFault
  | 0, disk, _ => (disk, some .deep)
  | count + 1, disk, path =>
    match disk.makeFolder path with
    | .error (.system ⟨.noEntry, subject⟩) =>
      if path.names = [] then (disk, some (.system ⟨.noEntry, subject⟩))
      -- From the top down: a folder is tried again once the one above it is there.
      else match ensureWithin count disk path.parent with
        | (disk, some fault) => (disk, some fault)
        | (disk, none) => disk.orPresent path (disk.makeFolder path)
    | result => disk.orPresent path result

def ensureFolder (disk : Disk) (path : Path) : Disk × Option PathFault :=
  ensureWithin mostMissing disk path

end Disk
end SpiceKit
