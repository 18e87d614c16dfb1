import SpiceKit.Text.Lines
import SpiceKit.Vocabulary

/-!
# Paths

A path is a root and the names below it. Empty names and `.` say nothing and are dropped when a
path is read; `..` is kept, since what it means depends on the disk. Two leading slashes are a root
of their own; three or more are the same as one.

`compiled` names the file that a source file is compiled to. Only a name with something before its
`.spc` is a source name; every other path is its own target.
-/

set_option autoImplicit false

namespace SpiceKit

inductive Root where
  | here
  | single
  | double
  deriving DecidableEq, Repr

def Root.slashes : Root → List Char
  | .here => []
  | .single => ['/']
  | .double => ['/', '/']

/-- A root and the names below it. Names that say nothing, a lone dot or an empty one, are dropped
when a path is read; two dots are kept, since where they lead is a matter of the disk. -/
structure Path where
  root : Root
  names : List (List Char)
  deriving DecidableEq, Repr

namespace Path

def rootOf : List Char → Root
  | '/' :: '/' :: '/' :: _ => .single
  | '/' :: '/' :: _ => .double
  | '/' :: _ => .single
  | _ => .here

def ofText (text : List Char) : Path :=
  { root := rootOf text
    names := (Text.split '/' text).filter fun name => name ≠ [] ∧ name ≠ ['.'] }

def ofString (text : String) : Path := ofText text.toList

def joinNames (names : List (List Char)) : List Char := ['/'].intercalate names

/-- The written form of a path; the empty path is a dot. -/
def toText (path : Path) : List Char :=
  match path.root, path.names with
  | .here, [] => ['.']
  | root, names => root.slashes ++ joinNames names

def toString (path : Path) : String := String.ofList path.toText

/-- Whether a path holds a NUL, which no name on a disk does. -/
def hasNull (path : Path) : Bool := path.names.any fun name => name.contains '\x00'

def name (path : Path) : List Char := path.names.getLast?.getD []

def parent (path : Path) : Path := { path with names := path.names.dropLast }

def child (path : Path) (name : List Char) : Path := { path with names := path.names ++ [name] }

def below (path : Path) (names : List (List Char)) : Path :=
  { path with names := path.names ++ names }

/-- A name cut before its last dot. The suffix is empty when that dot is the first or the last
character of the name, or there is none. -/
def splitSuffix (name : List Char) : List Char × List Char :=
  let extension := (name.reverse.takeWhile (· ≠ '.')).reverse
  let stem := name.take (name.length - extension.length - 1)
  if extension = [] ∨ stem = [] then (name, []) else (stem, '.' :: extension)

/-- The name of the compiled file for a source name; every other name is kept. -/
def compiledName (name : List Char) : List Char :=
  let (stem, suffix) := splitSuffix name
  if suffix = Vocabulary.sourceSuffix.toList then stem ++ Vocabulary.compiledSuffix.toList
  else name

/-- The path of the compiled file for a source path: the same folder, and the name that
`compiledName` makes. A path without names has nothing to be renamed. -/
def compiled (path : Path) : Path :=
  match path.names.getLast? with
  | none => path
  | some name => { path with names := path.names.dropLast ++ [compiledName name] }

end Path
end SpiceKit
