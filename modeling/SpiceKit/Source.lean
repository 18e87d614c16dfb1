import SpiceKit.Scan
import SpiceKit.Text.Lines
import SpiceKit.Text.Piece

/-!
# A document and its line index

A `Source` is a text together with the offsets at which its lines start. The index is a field, but
not a free one: the proof that it *is* the line starts of the text travels with it, so nothing
downstream has to ask whether the two agree.

Lines end at `\n` only; a carriage return stays part of its line. Offsets and columns count
characters. Queries take any integer and are clamped into the document, which is why a `Position`
holds integers and an answer holds natural numbers.
-/

set_option autoImplicit false

namespace SpiceKit

/-- A place in a document: line and column, both from zero. They are integers, for a query may come
with any; what `positionAt` answers is never negative. -/
structure Position where
  line : Int
  column : Int
  deriving DecidableEq, Repr

/-- A word of a document: its first offset, the offset behind it, and its text. What `wordAt`
answers is a maximal run of word characters (`wordAt_only_run`). -/
structure WordSpan where
  start : Nat
  stop : Nat
  word : String
  deriving DecidableEq, Repr

/-- The offsets one past each line feed, for a text that begins at the given offset. They increase
strictly (`pairwise_startsAfter`), and they shift with the text. -/
def startsAfter : Nat → List Char → List Nat
  | _, [] => []
  | offset, c :: cs =>
    if c = '\n' then (offset + 1) :: startsAfter (offset + 1) cs else startsAfter (offset + 1) cs

/-- The offsets at which the lines of a text start. There is always at least one line, which is why
`positionAt` can step back from the first start beyond an offset. -/
def lineStarts (text : List Char) : List Nat := 0 :: startsAfter 0 text

/-- A document: its text, and where its lines start. `ofText` is the way to make one, and two
sources of one text are equal. -/
structure Source where
  text : List Char
  starts : Array Nat
  starts_eq : starts = (lineStarts text).toArray

/-- The first index from `lo` to `hi` whose entry is greater than `x`, by halving the interval. In
an increasing array that is the number of entries not greater than `x`, which is all that later
proofs know of it (`upperBound_eq`). -/
def upperBound (entries : Array Nat) (x lo hi : Nat) : Nat :=
  if lo < hi then
    -- An entry equal to `x` is not greater than it, so the search goes on behind it.
    if x < entries.getD ((lo + hi) / 2) 0 then upperBound entries x lo ((lo + hi) / 2)
    else upperBound entries x ((lo + hi) / 2 + 1) hi
  else lo
termination_by hi - lo

namespace Source

def ofText (text : List Char) : Source := ⟨text, _, rfl⟩

def ofString (text : String) : Source := ofText text.toList

/-- The lines of the document, without their line feeds. They are cut from the text itself;
`index_agrees_with_lines` holds them to what `lineCount` and `lineText` read off the index. -/
def lines (source : Source) : List (List Char) := Text.lines source.text

def lineCount (source : Source) : Nat := source.starts.size

def endOffset (source : Source) : Nat := source.text.length

/-- The offset of the document nearest to any integer. Every query on offsets clamps first, so its
answer lies in the document. -/
def clamp (source : Source) (offset : Int) : Nat := min offset.toNat source.endOffset

def lineStart (source : Source) (line : Nat) : Nat := source.starts.getD line 0

def hasLine (source : Source) (line : Int) : Bool := 0 ≤ line && line < source.lineCount

def slice (source : Source) (start stop : Nat) : List Char :=
  (source.text.drop start).take (stop - start)

/-- The text of a line, cut out of the document by the index; empty when there is no such line. A
carriage return before the line feed is part of the text. -/
def lineText (source : Source) (line : Int) : List Char :=
  if source.hasLine line then
    if line.toNat + 1 < source.lineCount then
      -- The line feed in front of the next start is no part of the line.
      source.slice (source.lineStart line.toNat) (source.lineStart (line.toNat + 1) - 1)
    else source.text.drop (source.lineStart line.toNat)
  else []

/-- The place of an offset, found by binary search in the index. It undoes `offsetAt` and is undone
by it within the document (`places_inverse_offsets`). -/
def positionAt (source : Source) (offset : Int) : Position :=
  let place := source.clamp offset
  -- The first start is zero and greater than no offset, so there is a line to step back to.
  let line := upperBound source.starts place 0 source.starts.size - 1
  { line := line, column := place - source.lineStart line }

def endPosition (source : Source) : Position := source.positionAt source.endOffset

/-- The offset of a place. A line before the document is its start, a line behind it is its end, and
a column outside its line is the nearer end of that line; so every place has an offset in the
document. -/
def offsetAt (source : Source) (position : Position) : Nat :=
  if position.line < 0 then 0
  else if source.lineCount ≤ position.line then source.endOffset
  else source.lineStart position.line.toNat +
    min position.column.toNat (source.lineText position.line).length

def readWord : Scan.Reader (List Char) := fun _ cs =>
  (Text.takeName? cs).map fun (word, _) => (word, word.length)

/-- The word that touches a place: the column is in it or at one of its ends. A column outside the
line touches nothing, for here nothing is clamped. -/
def wordAt (source : Source) (position : Position) : Option WordSpan :=
  if source.hasLine position.line then
    let base := source.lineStart position.line.toNat
    -- Two words of a line never touch, so the first hit that does is the only one.
    ((Scan.hits readWord (source.lineText position.line)).find? fun hit =>
        hit.start ≤ position.column && position.column ≤ hit.stop).map fun hit =>
      { start := base + hit.start, stop := base + hit.stop, word := String.ofList hit.value }
  else none

end Source
end SpiceKit
