import SpiceKit.Screen.Markup
import SpiceKit.Text.Cluster

/-!
# What a screen makes of a text

Before a text reaches the screen, shortcodes become pictures, control characters that would move the
cursor are dropped, and tabs are filled up with spaces to the next multiple of eight cells. A tab is
at least one space wide.

The title of a ruled line is markup. It is kept on one line, and one that is too long for the screen
ends in an ellipsis.
-/

set_option autoImplicit false

namespace SpiceKit
namespace Screen

def tabStop : Nat := 8

/-- The parts of a line between tabs, from a column on, with spaces for the tabs. -/
def fillParts : Nat → List (List Char) → List Char
  | _, [] => []
  | _, [part] => part
  | column, part :: parts =>
    -- The space that a tab always is may reach the stop by itself; then there is no gap.
    let reached := column + Text.width (part ++ [' '])
    let gap := (tabStop - reached % tabStop) % tabStop
    part ++ ' ' :: (List.replicate gap ' ' ++ fillParts (reached + gap) parts)

def fillLine (line : List Char) : List Char := fillParts 0 (Text.split '\t' line)

def fillTabs (text : List Char) : List Char :=
  ['\n'].intercalate ((Text.lines text).map fillLine)

def present (text : List Char) : List Char := fillTabs (settle (Shortcode.expand text))

def columns : Nat := 1000

/-- How many of them the title of a ruled line may take: a rule and a space stand on either side. -/
def titleColumns : Nat := columns - 4

/-- A line that is cut off with an ellipsis if it takes more than a number of cells. -/
def shorten (cells : Nat) (line : List Char) : List Char :=
  if Text.width line ≤ cells then line else Text.fit (cells - 1) line ++ ['…']

/-! ## Titles -/

namespace Title

open Markup (Span Styled)

/-- A title with its tabs filled up. Where there are any, empty spans go. -/
def fill (title : Styled) : Styled :=
  if title.text.contains '\t' then
    ⟨fillLine title.text,
      (title.spans.filter fun span => span.start < span.stop).map fun span =>
        -- Only where a span starts is looked at again, so where it stops is left alone.
        { span with start := (fillLine (title.text.take span.start)).length }⟩
  else title

/-- A title that is cut off if it is too long. Spans that start behind the cut go. -/
def cut (title : Styled) : Styled :=
  let text := shorten titleColumns title.text
  ⟨text, if text.length < title.text.length then
    title.spans.filter fun span => span.start < text.length
  else title.spans⟩

def layOut (title : Styled) : Styled :=
  cut (fill ⟨title.text.map fun c => if c = '\n' then ' ' else c, title.spans⟩)

/-- Whether the style of a span has a colour with a missing number. Other faults of a style pass for
no style. -/
def lacksNumber (span : Span) : Bool :=
  match Style.read span.style with
  | .error .noNumber => true
  | _ => false

end Title

/-- The title of a ruled line as it reaches the screen. A title without a character has no spans. It
is one of the conventions of a command line; no result depends on which title this is. -/
def title (text : List Char) : Except Markup.Fault (List Char) := do
  let laidOut := Title.layOut (← Markup.styled text)
  -- The style of a span is read when a character is drawn in it.
  if laidOut.text ≠ [] && laidOut.spans.any Title.lacksNumber then throw .noNumber
  return laidOut.text

/-- A ruled line over the whole width of the screen with a title in the middle. -/
def ruledLine (title : List Char) : List Char :=
  let side := (columns - Text.width title) / 2
  List.replicate (side - 1) '-' ++ ' ' :: (title ++ ' ' ::
    List.replicate (columns - side - 1 - Text.width title) '-')

end Screen
end SpiceKit
