import SpiceKit.Text.Lines

/-!
# Matching a path against a pattern

A pattern for paths is a sequence of elements. Each element can take a piece off the front of a
path in a number of ways, and `Element.rests` lists what each of them leaves, the preferred one
first: the longest piece before shorter ones. A path matches when some choice of ways gets through
the whole sequence; which choice counts is settled by preference, element by element.

That matters because of the *folder mark*. A pattern may match a folder's own path or something
below it, and the slash behind the folder's name is then marked. Matches with and without the mark
have different weight, so the preferred match decides, and not merely whether there is one.

The path may go on behind the match.
-/

set_option autoImplicit false

namespace SpiceKit
namespace Ignore

inductive Member where
  /-- This character. -/
  | one (c : Char)
  /-- Every character from the first to the second. -/
  | range (low high : Char)
  deriving DecidableEq, Repr

def Member.has : Member → Char → Bool
  | .one c, d => d == c
  | .range low high, d => low ≤ d && d ≤ high

inductive Element where
  /-- This character. -/
  | literal (c : Char)
  /-- One character of a path name. -/
  | anyOne
  /-- Any number of characters of a path name. -/
  | anyRun
  /-- At least one character of a path name. -/
  | someRun
  /-- One character that a set lists, or one that it does not. -/
  | oneOf (negated : Bool) (members : List Member)
  /-- Any folders, each with its slash. -/
  | leadingFolders
  /-- Any folders, each behind a slash. -/
  | innerFolders
  /-- A slash, with the folder mark or without. -/
  | slash (marked : Bool)
  /-- A slash with the folder mark, or the end of the path. -/
  | finish
  deriving DecidableEq, Repr

/-- What is left after taking any number of characters of a class, the longest run first. To take
none is always a way, and the last of them. -/
def runRests (inClass : Char → Bool) : List Char → List (List Char)
  | [] => [[]]
  | c :: cs => if inClass c then runRests inClass cs ++ [c :: cs] else [c :: cs]

def someRests (inClass : Char → Bool) : List Char → List (List Char)
  | [] => []
  | c :: cs => if inClass c then runRests inClass cs else []

def inName (c : Char) : Bool := c != '/'

def inFolders (c : Char) : Bool := c != '\n'

def afterSlash? : List Char → Option (List Char)
  | '/' :: cs => some cs
  | _ => none

def atEnd (cs : List Char) : Bool := cs == [] || cs == ['\n']

def oneRest (inClass : Char → Bool) : List Char → List (List Char)
  | [] => []
  | c :: cs => if inClass c then [cs] else []

/-- What an element can leave of a path, in order of preference, each with whether the folder mark
was taken. Only `Element.slash` and `Element.finish` can take it. -/
def Element.rests : Element → List Char → List (List Char × Bool)
  | .literal c, cs => (oneRest (· == c) cs).map (·, false)
  | .anyOne, cs => (oneRest inName cs).map (·, false)
  | .anyRun, cs => (runRests inName cs).map (·, false)
  | .someRun, cs => (someRests inName cs).map (·, false)
  | .oneOf negated members, cs =>
    (oneRest (fun c => (members.any (·.has c)) != negated) cs).map (·, false)
  | .leadingFolders, cs =>
    -- No folder at all is the last resort, here as below.
    ((someRests inFolders cs).filterMap afterSlash? ++ [cs]).map (·, false)
  | .innerFolders, cs =>
    (((afterSlash? cs).map (someRests inFolders)).getD [] ++ [cs]).map (·, false)
  | .slash marked, cs => (afterSlash? cs).toList.map (·, marked)
  | .finish, cs =>
    (afterSlash? cs).toList.map (·, true) ++ (if atEnd cs then [(cs, false)] else [])

/-- The preferred match of a sequence of elements at the front of a path: whether it takes the
folder mark, or nothing when there is no match. It goes through the choices of `Element.rests` in
order, as a search with backtracking does. -/
def preferred? : List Element → List Char → Option Bool
  | [], _ => some false
  | element :: elements, cs =>
    -- The first way to match all the rest decides, even where a later one would take no mark.
    (element.rests cs).findSome? fun (rest, marked) =>
      (preferred? elements rest).map (marked || ·)

end Ignore
end SpiceKit
