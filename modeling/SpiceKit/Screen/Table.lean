import SpiceKit.Text.Cluster

/-!
# Tables on a screen

A table is drawn over the whole width of the screen, with a border around each column and a space on
either side of a cell. What the columns do not need is shared out among them in proportion to what
they do need, rounded up from the left on.

If the columns need more than there is, the first one gets what the others leave. A cell that is too
wide for it goes on in further lines, in which the other columns are empty.
-/

set_option autoImplicit false

namespace SpiceKit
namespace Screen

inductive Side where
  | left
  | right
  deriving DecidableEq, Repr

/-- A column of a table: its title, and the side on which it and the cells below it stand. -/
structure Column where
  title : String
  side : Side := .left
  deriving DecidableEq, Repr

def columnWidth (cells : List String) : Nat :=
  cells.foldl (fun widest cell => max widest (Text.width cell.toList)) 0

def column (rows : List (List String)) (index : Nat) : List String :=
  rows.map fun row => row.getD index ""

/-- The cells that the columns behind the first take, with the space around them. -/
def widthBehindFirst (rows : List (List String)) (count : Nat) : Nat :=
  (List.range (count - 1)).foldl
    (fun total index => total + columnWidth (column rows (index + 1)) + 2) 0

/-- The cells that the first of a number of columns has for its content on a screen. The columns
behind it take what they need, and the first what is left. -/
def firstWidth (screen : Nat) (rows : List (List String)) (count : Nat) : Nat :=
  screen - (count + 1) - 2 - widthBehindFirst rows count

/-! ## Lines -/

/-- Clusters in pieces that each take no more than a number of cells, from a column on. -/
def chopFrom (cells : Nat) : Nat → List Text.Cluster → List (List Char)
  | _, [] => [[]]
  | column, cluster :: rest =>
    if column + cluster.cells ≤ cells then
      match chopFrom cells (column + cluster.cells) rest with
      | [] => [cluster.chars]
      | piece :: pieces => (cluster.chars ++ piece) :: pieces
    else
      -- A cluster is never parted: one that does not fit starts the next piece.
      match chopFrom cells cluster.cells rest with
      | [] => [[], cluster.chars]
      | piece :: pieces => [] :: (cluster.chars ++ piece) :: pieces

/-- A text cut into pieces that each take no more than a number of cells. It is cut between clusters
only, so a wide one may leave a cell of a piece empty. -/
def chop (cells : Nat) (text : List Char) : List (List Char) :=
  chopFrom cells 0 (Text.clusters text)

/-- The lines of a row, the first cell of which has a number of cells. -/
def rowLines (cells : Nat) : List String → List (List String)
  | [] => [[]]
  | first :: others =>
    match chop cells first.toList with
    | [] => [first :: others]
    | piece :: pieces =>
      (String.ofList piece :: others) ::
        pieces.map fun piece => String.ofList piece :: others.map fun _ => ""

/-- The lines of the rows of a table below its head, on a screen of so many columns. -/
def tableLines (screen : Nat) (head : List String) (rows : List (List String)) :
    List (List String) :=
  rows.flatMap (rowLines (firstWidth screen (head :: rows) head.length))

/-! ## Drawing -/

/-- A number of cells shared out in proportion to some widths, which add up to `total`. Each share
is rounded up, and what is left goes on to the next. -/
def spread : Nat → Nat → List Nat → List Nat
  | _, _, [] => []
  | amount, total, width :: widths =>
    -- Shares of what is left, in proportion to the widths that are left, come out even at the end.
    let share := (width * amount + total - 1) / total
    share :: spread (amount - share) (total - width) widths

/-- The widths of the columns of a table on a screen, each with the space around its cells. -/
def tableWidths (screen count : Nat) (rows : List (List String)) : List Nat :=
  let needed := (List.range count).map fun index => columnWidth (column rows index) + 2
  let total := needed.foldl (· + ·) 0
  let given := screen - (count + 1)
  if total ≤ given then List.zipWith (· + ·) needed (spread (given - total) total needed)
  else (firstWidth screen rows count + 2) :: needed.drop 1

def across (left filling crossing right : Char) (widths : List Nat) : String :=
  String.ofList
    (left :: ([crossing].intercalate (widths.map (List.replicate · filling)) ++ [right]))

/-- A cell that stands on a side of its column, with a space around it. -/
def drawCell (side : Side) (width : Nat) (cell : String) : List Char :=
  let gap := List.replicate (width - 2 - Text.width cell.toList) ' '
  match side with
  | .left => ' ' :: (cell.toList ++ gap) ++ [' ']
  | .right => ' ' :: (gap ++ cell.toList) ++ [' ']

def drawLine (border : Char) (sides : List Side) (widths : List Nat) (line : List String) :
    String :=
  let cells := List.zipWith (fun (side, width) cell => drawCell side width cell)
    (sides.zip widths) line
  String.ofList (border :: ([border].intercalate cells ++ [border]))

def drawTable (screen : Nat) (columns : List Column) (rows : List (List String)) : List String :=
  let head := columns.map (·.title)
  let sides := columns.map (·.side)
  let widths := tableWidths screen columns.length (head :: rows)
  [across '┏' '━' '┳' '┓' widths, drawLine '┃' sides widths head,
      across '┡' '━' '╇' '┩' widths] ++
    (tableLines screen head rows).map (drawLine '│' sides widths) ++
    [across '└' '─' '┴' '┘' widths]

end Screen
end SpiceKit
