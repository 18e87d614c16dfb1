import SpiceKit.Screen.Control
import SpiceKit.Screen.Handler
import SpiceKit.Screen.Shortcode
import SpiceKit.Screen.Style

/-!
# Markup

Text may hold *tags* in brackets, which style what lies between them: `[bold]` opens, `[/bold]`
closes the last open tag of the same normal form, `[/]` closes the last one. A tag starts with a
small letter, `#`, `/` or `@`; all other brackets are text. What stands behind an equals sign is no
part of the name. Tags need not be closed, but what is closed must be open. A tag whose name starts
with `@` is an event; when it is closed, what stands behind its equals sign must be a handler.

A backslash before a tag makes it text. Of several backslashes each pair is one backslash, and a
single one that is left over makes the tag text.

What comes of markup is a text and its *spans*, the stretches of it that have a style. A screen
without colours shows nothing of them, but it reads their styles.
-/

set_option autoImplicit false

namespace SpiceKit
namespace Markup

inductive Fault where
  /-- A tag is closed that is not open. -/
  | unopened (tag : List Char) (position : Nat)
  /-- The last tag is closed and none is open. -/
  | nothingOpen (position : Nat)
  /-- In the name of a tag there is a colour with a missing number. -/
  | noNumber
  /-- An event is closed that has something else than a handler. -/
  | handler (fault : Handler.Fault)
  deriving DecidableEq, Repr

def Fault.message : Fault → String
  | .unopened tag position =>
    "closing tag '[" ++ String.ofList tag ++ "]' at position " ++ toString position ++
      " doesn't match any open tag"
  | .nothingOpen position =>
    "closing tag '[/]' at position " ++ toString position ++ " has nothing to close"
  | .noNumber => "invalid literal for int() with base 10: ''"
  | .handler fault => fault.message

/-! ## Pieces -/

/-- A piece of markup: text, or what stands in the brackets of a tag, with the tag's place. -/
inductive Piece where
  | text (cs : List Char)
  | tag (position : Nat) (inside : List Char)
  deriving DecidableEq, Repr

def startsTag (c : Char) : Bool := ('a' ≤ c && c ≤ 'z') || c == '#' || c == '/' || c == '@'

/-- The inside of a tag, behind its opening bracket, and what follows its closing bracket. -/
def tag? (cs : List Char) : Option (List Char × List Char) :=
  if cs.head?.any startsTag then
    match cs.dropWhile fun c => c ≠ '[' ∧ c ≠ ']' with
    | ']' :: rest => some (cs.takeWhile fun c => c ≠ '[' ∧ c ≠ ']', rest)
    | _ => none
  else none

theorem length_tag?_lt {cs inside rest : List Char} (h : tag? cs = some (inside, rest)) :
    rest.length < cs.length := by
  unfold tag? at h
  have hdrop : (cs.dropWhile fun c => c ≠ '[' ∧ c ≠ ']').length ≤ cs.length :=
    (List.dropWhile_sublist _).length_le
  split at h
  · split at h
    · rename_i rest' heq
      cases h
      rw [heq] at hdrop
      simp only [List.length_cons] at hdrop
      omega
    · cases h
  · cases h

/-- The tag at the front of a text, behind any number of backslashes: how many there are, the inside
of the tag, and what follows it. -/
def escapedTag? : List Char → Option (Nat × List Char × List Char)
  | '\\' :: cs => (escapedTag? cs).map fun (count, found) => (count + 1, found)
  | '[' :: cs => (tag? cs).map fun found => (0, found)
  | _ => none

theorem length_escapedTag?_lt {cs inside rest : List Char} {count : Nat}
    (h : escapedTag? cs = some (count, inside, rest)) : rest.length < cs.length := by
  fun_induction escapedTag? cs generalizing count with
  | case1 cs ih =>
    obtain ⟨⟨count', found⟩, hfound, heq⟩ := Option.map_eq_some_iff.1 h
    cases heq
    have := ih hfound
    simp only [List.length_cons]
    omega
  | case2 cs =>
    obtain ⟨found, hfound, heq⟩ := Option.map_eq_some_iff.1 h
    cases heq
    have := length_tag?_lt hfound
    simp only [List.length_cons]
    omega
  | case3 => cases h

/-- The pieces of a tag behind a number of backslashes, which start at a position. -/
def tagPieces (position count : Nat) (inside : List Char) : List Piece :=
  .text (List.replicate (count / 2) '\\') ::
    -- Two backslashes show as one; one that is left over takes the brackets for text.
    (if count % 2 = 0 then [.tag (position + count) inside]
    else [.text ('[' :: (inside ++ [']']))])

/-- The pieces of markup from a position on; `taken` is the text before it, last first. -/
def piecesFrom (position : Nat) (taken cs : List Char) : List Piece :=
  match h : escapedTag? cs with
  | some (count, inside, rest) =>
    have := length_escapedTag?_lt h
    .text taken.reverse :: (tagPieces position count inside ++
      piecesFrom (position + (cs.length - rest.length)) [] rest)
  | none =>
    match cs with
    | [] => [.text taken.reverse]
    -- A backslash that no tag follows comes along as it is.
    | c :: cs => piecesFrom (position + 1) (c :: taken) cs
termination_by cs.length

def pieces (cs : List Char) : List Piece := piecesFrom 0 [] cs

/-! ## Tags -/

/-- A tag that is open: where its span starts, the normal form of its name, and what stands behind
the equals sign, if there is one. -/
structure Tag where
  start : Nat
  name : List Char
  parameters : Option (List Char)
  deriving DecidableEq, Repr

/-- The style of a tag as it is written: its name and, behind a space, what goes with it. -/
def Tag.style (tag : Tag) : List Char :=
  match tag.parameters with
  | none => tag.name
  | some parameters => tag.name ++ ' ' :: parameters

structure Span where
  start : Nat
  stop : Nat
  style : List Char
  deriving DecidableEq, Repr

def Tag.span (tag : Tag) (stop : Nat) : Span := ⟨tag.start, stop, tag.style⟩

def Tag.isEvent (tag : Tag) : Bool := tag.name.head? == some '@'

/-- The spans of a tag that is closed at a place. An event has none, but must have a handler if it
has anything. -/
def Tag.close (tag : Tag) (stop : Nat) : Except Fault (List Span) :=
  if tag.isEvent then
    match tag.parameters.getD [] with
    | [] => .ok []
    | written => ((Handler.check written).mapError .handler).map fun _ => []
  else .ok [tag.span stop]

def nameOf (inside : List Char) : List Char := inside.takeWhile (· ≠ '=')

/-- What stands behind the first equals sign of a tag, if there is one. -/
def parametersOf (inside : List Char) : Option (List Char) :=
  match inside.dropWhile (· ≠ '=') with
  | [] => none
  | _ :: parameters => some parameters

def normalName (name : List Char) : Except Fault (List Char) :=
  match Style.normalize name with
  | .ok name => .ok name
  | .error _ => .error .noNumber

def closed (opened : List Tag) (position : Nat) (inside name : List Char) : Except Fault Tag :=
  if name = [] then
    match opened with
    | [] => .error (.nothingOpen position)
    | tag :: _ => .ok tag
  else do
    let name ← normalName name
    -- Tags may cross: any that is open can be closed, not just the last.
    match opened.find? (·.name = name) with
    | some tag => return tag
    | none => throw (.unopened inside position)

/-- The open tags, the last one first, behind a tag, and the spans that end there. The tag stands at
a position of the markup and at a place of the text. -/
def follow (opened : List Tag) (position place : Nat) (inside : List Char) :
    Except Fault (List Tag × List Span) :=
  match nameOf inside with
  | '/' :: name => do
    let tag ← closed opened position inside (Text.trim name)
    return (opened.erase tag, ← tag.close place)
  | name => do
    return (⟨place, ← normalName name, parametersOf inside⟩ :: opened, [])

/-! ## Texts -/

structure Styled where
  text : List Char
  spans : List Span
  deriving DecidableEq, Repr

def plainBrackets : List Char → List Char
  | '\\' :: '[' :: cs => '[' :: plainBrackets cs
  | c :: cs => c :: plainBrackets cs
  | [] => []

/-- A text between tags as it is shown: with pictures for shortcodes. -/
def shown (cs : List Char) : List Char := Screen.settle (Shortcode.expand (plainBrackets cs))

/-- What comes of pieces behind some open tags, from a place of the text on. Tags that stay open
reach to the end. -/
def styledFrom (place : Nat) (opened : List Tag) : List Piece → Except Fault Styled
  | [] => .ok ⟨[], opened.map (·.span place)⟩
  | .text cs :: pieces => do
    -- Places are counted in what is shown, where a shortcode is as long as its picture.
    let rest ← styledFrom (place + (shown cs).length) opened pieces
    return ⟨shown cs ++ rest.text, rest.spans⟩
  | .tag position inside :: pieces => do
    let (opened, spans) ← follow opened position place inside
    let rest ← styledFrom place opened pieces
    return ⟨rest.text, spans ++ rest.spans⟩

def styled (cs : List Char) : Except Fault Styled := styledFrom 0 [] (pieces cs)

end Markup
end SpiceKit
