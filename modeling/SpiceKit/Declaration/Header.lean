import SpiceKit.Text.Piece

/-!
# Declaration headers

The grammar of the three kinds of declaration, each read off the front of a text. A header ends
before its block: the braces are not part of it.

* a class: `[abstract | final] class Name [extends Name] [implements Name, …, Name]`
* an interface: `interface Name`
* a function: `[static | final | abstract] def Name ( … ) [-> Name]`, where the parameter list is
  anything up to the next closing parenthesis

Between two words stands at least one blank, around punctuation any number. Each optional part is
taken when it can be read in full and left alone otherwise.
-/

set_option autoImplicit false

namespace SpiceKit

/-- A header read off the front of a text: the declared name, how far from the front it stands, and
how many characters the whole header has. -/
structure Header where
  name : List Char
  nameAt : Nat
  size : Nat
  deriving DecidableEq, Repr

namespace Header

open Text

def named? (keyword whole body : List Char) : Option (Header × List Char) := do
  let afterKeyword ← dropText? keyword body
  let atName ← dropGap? afterKeyword
  let (name, rest) ← takeName? atName
  return ({ name := name, nameAt := whole.length - atName.length,
            size := whole.length - rest.length }, rest)

/-- A gap, a keyword, a gap and a name: one clause of a class header. -/
def afterClause? (keyword cs : List Char) : Option (List Char) := do
  let atKeyword ← dropGap? cs
  let afterKeyword ← dropText? keyword atKeyword
  let atName ← dropGap? afterKeyword
  let (_, rest) ← takeName? atName
  return rest

def afterListed? (cs : List Char) : Option (List Char) :=
  match dropGap cs with
  | ',' :: rest => (takeName? (dropGap rest)).map (·.2)
  | _ => none

theorem length_afterListed?_lt {cs rest : List Char} (h : afterListed? cs = some rest) :
    rest.length < cs.length := by
  rw [afterListed?] at h
  split at h
  · rename_i rest' hcs
    obtain ⟨⟨name, rest''⟩, hname, rfl⟩ := Option.map_eq_some_iff.1 h
    have h1 := length_takeName?_lt hname
    have h2 := length_dropGap_le rest'
    have h3 := length_dropGap_le cs
    rw [hcs] at h3
    simp only [List.length_cons] at h3
    simp only
    omega
  · cases h

def afterList (cs : List Char) : List Char :=
  match h : afterListed? cs with
  -- A comma that no name follows is not taken: the list ends in front of it.
  | none => cs
  | some rest =>
    have := length_afterListed?_lt h
    afterList rest
termination_by cs.length

def afterExtends (cs : List Char) : List Char := (afterClause? "extends".toList cs).getD cs

def afterImplements (cs : List Char) : List Char :=
  ((afterClause? "implements".toList cs).map afterList).getD cs

/-- The text behind the parameter list, if it is closed. The list ends at the first closing
parenthesis, whatever stands in it; parentheses are not counted. -/
def afterParameters? (cs : List Char) : Option (List Char) :=
  match dropGap cs with
  | '(' :: rest =>
    -- All but a closing parenthesis is a parameter, line feeds and further opening ones too.
    match rest.dropWhile (· ≠ ')') with
    | [] => none
    | _ :: behind => some behind
  | _ => none

def afterResult (cs : List Char) : List Char :=
  (((dropText? "->".toList (dropGap cs)).bind fun rest => takeName? (dropGap rest)).map
    (·.2)).getD cs

def afterModifier (keywords : List String) (cs : List Char) : List Char :=
  (dropModifier? (keywords.map String.toList) cs).getD cs

def class? (cs : List Char) : Option Header := do
  let (header, rest) ← named? "class".toList cs (afterModifier ["abstract", "final"] cs)
  -- Nothing has to follow these clauses, so one that was read in full is never given back.
  return { header with size := cs.length - (afterImplements (afterExtends rest)).length }

def interface? (cs : List Char) : Option Header :=
  (named? "interface".toList cs cs).map (·.1)

def function? (cs : List Char) : Option Header := do
  let (header, rest) ← named? "def".toList cs (afterModifier ["static", "final", "abstract"] cs)
  let behind ← afterParameters? rest
  return { header with size := cs.length - (afterResult behind).length }

end Header
end SpiceKit
