import SpiceKit.Fault
import SpiceKit.Ignore.Expression
import SpiceKit.Text.Blank

/-!
# Lines of a pattern file

A line is blank, a comment, or a pattern; a leading `!` turns a pattern into an exception. A
pattern is cut at its slashes. With a slash at the front or between names it is fixed to the
folder of its file; a single name may stand at any depth, which is the same as `**` before it. A
slash at the end asks for a folder, which is the same as `**` behind it.

In a name, `*` stands for any characters, `?` for one, `[…]` for one of a set, and a backslash takes
the next character as it is. A set that is never closed makes the whole line mean nothing; a
backslash with nothing behind it makes it an error, and so does a range whose ends are in the wrong
order, which is looked for only when the line is a pattern otherwise.
-/

set_option autoImplicit false

namespace SpiceKit
namespace Ignore

inductive Shape where
  /-- Every path. -/
  | everything
  /-- Every path with a slash in it, with the folder mark or without. -/
  | anythingBelow (marked : Bool)
  /-- The paths that a sequence of elements matches from the front. -/
  | sequence (elements : List Element)
  deriving DecidableEq, Repr

structure Pattern where
  negated : Bool
  shape : Shape
  deriving DecidableEq, Repr

def Shape.preferred? : Shape → List Char → Option Bool
  | .everything, path => if path.any (· ≠ '\n') then some false else none
  | .anythingBelow marked, path => if path.any (· = '/') then some marked else none
  | .sequence elements, path => Ignore.preferred? elements path

/-! ## Names -/

inductive Obstacle where
  /-- It means nothing and is passed over. -/
  | idle
  /-- It is an error. -/
  | invalid
  /-- It holds a range whose ends are in the wrong order. -/
  | reversed (range : Reversed)
  deriving DecidableEq, Repr

/-- What the inside of a set lists: `a-z` is a range, everything else stands for itself. A minus
sign that lacks one of its two neighbours makes no range. -/
def membersOf : List Char → List Member
  | low :: '-' :: high :: cs => .range low high :: membersOf cs
  | c :: cs => .one c :: membersOf cs
  | [] => []

/-- The inside of a set, behind its opening bracket and any negation: up to the closing bracket,
which does not count if it stands first. -/
def setInside? (cs : List Char) : Option (List Char × List Char) :=
  -- A closing bracket right at the front is a member of the set.
  let (first, rest) := match cs with
    | ']' :: rest => ([']'], rest)
    | _ => ([], cs)
  match rest.dropWhile (· ≠ ']') with
  | [] => none
  | _ :: behind => some (first ++ rest.takeWhile (· ≠ ']'), behind)

def set? (cs : List Char) : Option (Element × List Char) :=
  let (negated, rest) := match cs with
    | '!' :: rest => (true, rest)
    | '^' :: rest => (true, rest)
    | _ => (false, cs)
  (setInside? rest).map fun (inside, behind) => (.oneOf negated (membersOf inside), behind)

theorem length_setInside?_le {cs inside behind : List Char}
    (h : setInside? cs = some (inside, behind)) : behind.length ≤ cs.length := by
  -- The closing bracket is searched for in the text, or in the text behind its first characters.
  have key : ∀ rest : List Char, rest.length ≤ cs.length →
      (match rest.dropWhile (· ≠ ']') with
        | [] => none
        | _ :: behind => some behind) = some behind → behind.length ≤ cs.length := by
    intro rest hrest hmatch
    have hdrop : (rest.dropWhile (· ≠ ']')).length ≤ rest.length :=
      (List.dropWhile_sublist _).length_le
    split at hmatch
    · cases hmatch
    · rename_i c tail heq
      cases hmatch
      rw [heq] at hdrop
      simp only [List.length_cons] at hdrop
      omega
  unfold setInside? at h
  split at h
  rename_i first rest hfirst
  have hrest : rest.length ≤ cs.length := by
    split at hfirst
    · cases hfirst
      simp
    · cases hfirst
      exact Nat.le_refl _
  apply key rest hrest
  split at h
  · cases h
  · cases h
    simp_all

theorem length_set?_le {cs behind : List Char} {element : Element}
    (h : set? cs = some (element, behind)) : behind.length ≤ cs.length := by
  unfold set? at h
  split at h
  rename_i negated rest hrest
  obtain ⟨⟨inside, behind'⟩, hinside, heq⟩ := Option.map_eq_some_iff.1 h
  cases heq
  have hle := length_setInside?_le hinside
  split at hrest <;> cases hrest <;> simp only [List.length_cons] at * <;> omega

def nameElements (cs : List Char) : Except Obstacle (List Element) :=
  match cs with
  | [] => .ok []
  | '\\' :: [] => .error .invalid
  | '\\' :: c :: rest => (nameElements rest).map (.literal c :: ·)
  | '*' :: rest => (nameElements rest).map (.anyRun :: ·)
  | '?' :: rest => (nameElements rest).map (.anyOne :: ·)
  | '[' :: rest =>
    match h : set? rest with
    -- A set that is never closed makes the whole line mean nothing.
    | none => .error .idle
    | some (element, behind) =>
      have := length_set?_le h
      (nameElements behind).map (element :: ·)
  | c :: rest => (nameElements rest).map (.literal c :: ·)
termination_by cs.length

/-! ## Paths -/

def anyDepth : List Char := ['*', '*']

def collapse : List (List Char) → List (List Char)
  | [] => []
  | segment :: segments =>
    if segment = anyDepth ∧ segments.head? = some anyDepth then collapse segments
    else segment :: collapse segments

/-- The segments of a pattern, with the place of a lone name and the meaning of a final slash made
explicit. So `shapeOf` finds either of them spelled as `anyDepth`. -/
def normalize (segments : List (List Char)) : List (List Char) :=
  -- A leading slash ties a pattern to its folder; a lone name without one is at home anywhere.
  let placed := match segments with
    | [] :: rest => rest
    | [segment] => if segment = anyDepth then [segment] else [anyDepth, segment]
    | [segment, []] => if segment = anyDepth then [segment, []] else [anyDepth, segment, []]
    | segments => segments
  -- A final slash asks for a folder, that is for anything below it.
  let opened := if placed.getLast? = some [] then placed.dropLast ++ [anyDepth] else placed
  collapse opened

def segmentElements (segment : List Char) : Except Obstacle (List Element) :=
  if segment = ['*'] then .ok [.someRun] else nameElements segment

/-- The elements of the segments behind the first, each behind its slash, and of the end of the
path. Where the pattern asks for a folder the last slash is one with the mark. -/
def restElements (folderOnly : Bool) : List (List Char) → Except Obstacle (List Element)
  | [] => .ok [.finish]
  | segment :: segments =>
    if segment = anyDepth then
      if segments = [] then .ok [.slash folderOnly]
      else (restElements folderOnly segments).map (.innerFolders :: ·)
    else do
      let elements ← segmentElements segment
      return .slash false :: elements ++ (← restElements folderOnly segments)

def shapeOf (folderOnly : Bool) : List (List Char) → Except Obstacle Shape
  | [] => .error .invalid
  | first :: rest =>
    if first = anyDepth then
      match rest with
      | [] => .ok (if folderOnly then .anythingBelow true else .everything)
      | segment :: segments =>
        if segment = ['*'] ∧ segments = [] then .ok .everything
        else if segment = ['*'] ∧ segments = [anyDepth] then .ok (.anythingBelow folderOnly)
        else do
          let elements ← segmentElements segment
          return .sequence (.leadingFolders :: elements ++ (← restElements folderOnly segments))
    else do
      let elements ← segmentElements first
      return .sequence (elements ++ (← restElements folderOnly rest))

/-! ## Lines -/

/-- A line without the blanks at its end, unless the last of them is kept by a backslash. It is done
before `isIdle` is asked, so a line of blanks is idle. -/
def stripLine (line : List Char) : List Char :=
  -- One escaped space keeps all the blanks before it as well.
  if [' ', '\\'].isPrefixOf line.reverse then line else Text.trimEnd line

def Shape.ordered : Shape → Except Obstacle Shape
  | .sequence elements =>
    match reversed? elements with
    | some range => .error (.reversed range)
    | none => .ok (.sequence elements)
  | shape => .ok shape

def ofStripped (line : List Char) : Except Obstacle Pattern := do
  let (negated, body) := match line with
    | '!' :: rest => (true, rest)
    | _ => (false, line)
  let segments := Text.split '/' body
  let shape ← shapeOf (segments.getLast? = some []) (normalize segments)
  return ⟨negated, ← shape.ordered⟩

def isIdle (line : List Char) : Bool := line == [] || line.head? == some '#' || line == ['/']

/-- The pattern of a line, if it holds one. This is the one place where a line becomes a fault, and
there are two kinds of it (`faultsOnly_ofLine`). -/
def ofLine (line : List Char) : Except Fault (Option Pattern) :=
  let stripped := stripLine line
  if isIdle stripped then .ok none
  else match ofStripped stripped with
    | .ok pattern => .ok (some pattern)
    | .error .idle => .ok none
    | .error .invalid => .error (.pattern (String.ofList line))
    | .error (.reversed range) => .error (.reversedRange range)

/-- The patterns of a pattern file, in order. The first line that is a fault is the fault of the
whole file. -/
def ofText (text : List Char) : Except Fault (List Pattern) :=
  ((Text.splitBreaks text).mapM ofLine).map fun patterns => patterns.filterMap id

/-- What patterns say of a path: a match without the folder mark outweighs one with it, and of equal
matches the last counts. Exceptions are patterns like others here. -/
def verdict? (patterns : List Pattern) (path : List Char) : Option Pattern :=
  let strength (marked : Bool) := patterns.reverse.find? fun pattern =>
    pattern.shape.preferred? path = some marked
  (strength false).or (strength true)

/-- Whether patterns exclude a path. A folder's path ends in a slash. It is one half of
`Ignore.standard`, and no general result on walks looks into it. -/
def excludes (patterns : List Pattern) (path : List Char) : Bool :=
  (verdict? patterns path).any fun pattern => !pattern.negated

end Ignore
end SpiceKit
