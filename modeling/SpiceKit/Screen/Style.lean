import SpiceKit.Screen.Colour
import SpiceKit.Text.Blank

/-!
# Styles

A style is written as words: emphases such as `bold`, most of which have a short name and each of
which `not` turns off, a colour, a colour behind `on` for the ground, and an address behind `link`.
Of two words for one thing the later counts.

Two names mean the same style when they have the same normal form. A text that is no style is its
own normal form, case and outer blanks aside, so that names nobody has heard of can be told apart
too.
-/

set_option autoImplicit false

namespace SpiceKit

inductive Emphasis where
  | bold
  | dim
  | italic
  | underline
  | blink
  | blink2
  | reverse
  | conceal
  | strike
  | underline2
  | frame
  | encircle
  | overline
  deriving DecidableEq, Repr

namespace Emphasis

def all : List Emphasis :=
  [.bold, .dim, .italic, .underline, .blink, .blink2, .reverse, .conceal, .strike, .underline2,
    .frame, .encircle, .overline]

def word : Emphasis → String
  | .bold => "bold"
  | .dim => "dim"
  | .italic => "italic"
  | .underline => "underline"
  | .blink => "blink"
  | .blink2 => "blink2"
  | .reverse => "reverse"
  | .conceal => "conceal"
  | .strike => "strike"
  | .underline2 => "underline2"
  | .frame => "frame"
  | .encircle => "encircle"
  | .overline => "overline"

def shortNames : List (String × Emphasis) :=
  [("d", .dim), ("b", .bold), ("i", .italic), ("u", .underline), ("r", .reverse), ("c", .conceal),
    ("s", .strike), ("uu", .underline2), ("o", .overline)]

def ofWord? (word : String) : Option Emphasis :=
  (all.find? fun emphasis => emphasis.word = word).or (shortNames.lookup word)

end Emphasis

/-- A style: emphases turned on or off, the later ones first, the colours of letters and ground,
and an address. -/
structure Style where
  emphases : List (Emphasis × Bool) := []
  colour : Option (List Char) := none
  ground : Option (List Char) := none
  link : Option (List Char) := none
  deriving DecidableEq, Repr

namespace Style

def readWords (style : Style) : List (List Char) → Except ColourFault Style
  | [] => .ok style
  | word :: words =>
    match String.ofList (Text.lower word), words with
    | "on", [] => .error .unknown
    | "on", next :: words => do
      readWords { style with ground := some (← Colour.read next) } words
    | "not", [] => .error .unknown
    | "not", next :: words =>
      match Emphasis.ofWord? (String.ofList next) with
      | none => .error .unknown
      | some emphasis =>
        readWords { style with emphases := (emphasis, false) :: style.emphases } words
    | "link", [] => .error .unknown
    | "link", next :: words => readWords { style with link := some next } words
    | lowered, words =>
      match Emphasis.ofWord? lowered with
      | some emphasis =>
        readWords { style with emphases := (emphasis, true) :: style.emphases } words
      | none => do readWords { style with colour := some (← Colour.read word) } words

def read (text : List Char) : Except ColourFault Style :=
  if Text.trim text = "none".toList then .ok {} else readWords {} (Text.words text)

def emphasisText (style : Style) (emphasis : Emphasis) : Option (List Char) :=
  (style.emphases.lookup emphasis).map fun on =>
    (if on then emphasis.word else "not " ++ emphasis.word).toList

def normalForm (style : Style) : List Char :=
  let parts := Emphasis.all.filterMap style.emphasisText ++ style.colour.toList ++
    (style.ground.map fun colour => "on ".toList ++ colour).toList ++
    (style.link.map fun address => "link ".toList ++ address).toList
  if parts = [] then "none".toList else [' '].intercalate parts

/-- The normal form of a text, be it a style or not. The one fault is a colour with a missing
number. Tags are matched by it: a closing tag closes the last open one of its normal form. -/
def normalize (text : List Char) : Except ColourFault (List Char) :=
  match read text with
  | .ok style => .ok style.normalForm
  | .error .unknown => .ok (Text.lower (Text.trim text))
  | .error .noNumber => .error .noNumber

end Style
end SpiceKit
