import QuantumKata.Console.Markup

/-!
# Console tables

A table has a title, a header for every column and rows of cells.  A column is as wide as its widest
cell or header, and every cell has a blank on both sides.  A table that is wider than the console is
narrowed: the widest columns give way first, until they are as wide as the next ones, and share what
is left between them.  Cells are broken into lines that fit into their column.  The title stands
above the table, every line of it centred.
-/

namespace QuantumKata.Console

/-- A table of marked-up texts. -/
structure Table where
  title : String
  headers : List String
  rows : List (List String)

namespace Table

/-- A text of equal characters. -/
def line (char : Char) (length : Nat) : String := String.ofList (List.replicate length char)

/-! ## Widths -/

/-- The width of columns when every cell has the room it needs: the greatest width in each column,
with the blanks on both sides. -/
def naturalWidths (headers : List String) (rows : List (List String)) : List Nat :=
  (rows.foldl (fun widths row => List.zipWith max widths (row.map widthOf))
    (headers.map widthOf)).map (· + 2)

/-- The sum of widths. -/
def sumOf (widths : List Nat) : Nat := widths.foldl (· + ·) 0

/-- A quotient rounded to the nearest number, and to the even one of two. -/
def rounded (dividend divisor : Nat) : Nat :=
  let quotient := dividend / divisor
  let twice := 2 * (dividend % divisor)
  if divisor < twice || (twice = divisor && quotient % 2 = 1) then quotient + 1 else quotient

/-- Take an excess from the columns of the greatest width, `sharers` of which are left, and at most
`most` from each of them. -/
def reduceWidest (widest most : Nat) : (excess sharers : Nat) → List Nat → List Nat
  | _, _, [] => []
  | excess, sharers, width :: rest =>
    if width = widest then
      let part := min most (rounded excess sharers)
      (width - part) :: reduceWidest widest most (excess - part) (sharers - 1) rest
    else width :: reduceWidest widest most excess sharers rest

/-- Narrow columns until they fit into the room; the fuel bounds the excess. -/
def collapse (room : Nat) : (fuel : Nat) → List Nat → List Nat
  | 0, widths => widths
  | fuel + 1, widths =>
    let excess := sumOf widths - room
    let widest := widths.foldl max 0
    let second := (widths.filter (· ≠ widest)).foldl max 0
    if excess = 0 || widest = second then widths
    else
      let sharers := (widths.filter (· = widest)).length
      collapse room fuel
        (reduceWidest widest (min excess (widest - second)) excess sharers widths)

/-- The cells that the borders between and around columns take. -/
def borderCells (widths : List Nat) : Nat := widths.length + 1

/-- The widths of the columns with the blanks on both sides. -/
def columnWidths (headers : List String) (rows : List (List String)) : List Nat :=
  let widths := naturalWidths headers rows
  collapse (screenWidth - borderCells widths) (sumOf widths) widths

/-! ## Lines -/

/-- A horizontal border: its ends, its crossings and its line. -/
def border (first crossing last fill : Char) (widths : List Nat) : String :=
  String.singleton first ++
    (String.singleton crossing).intercalate (widths.map (line fill)) ++ String.singleton last

/-- One line of a row. -/
def rowLine (bar : Char) (widths : List Nat) (cells : List String) : String :=
  String.singleton bar ++
    (String.singleton bar).intercalate
      (List.zipWith (fun width cell => Text.padCells width (" " ++ cell)) widths cells) ++
    String.singleton bar

/-- The lines of a row, as many as its highest cell has. -/
def rowLines (bar : Char) (widths : List Nat) (row : List String) : List String :=
  let cells := List.zipWith (fun width cell => wrap (width - 2) false cell) widths row
  let height := (cells.map List.length).foldl max 1
  (List.range height).map fun place =>
    rowLine bar widths (cells.map fun lines => lines.getD place "")

/-- A line in the middle of the width. -/
def centred (width : Nat) (text : String) : String :=
  let content := Text.stripEnd text
  line ' ' ((width - Text.cells content) / 2) ++ content

/-- The lines of a table. -/
def render (table : Table) : Except Fault (List String) := do
  let title ← visible table.title
  let headers ← table.headers.mapM visible
  let rows ← table.rows.mapM fun row => row.mapM visible
  let widths := columnWidths headers rows
  let width := sumOf widths + borderCells widths
  return (wrap width true title).map (centred width) ++ [border '┏' '┳' '┓' '━' widths] ++
    rowLines '┃' widths headers ++ [border '┡' '╇' '┩' '━' widths] ++
    rows.flatMap (rowLines '│' widths) ++ [border '└' '┴' '┘' '─' widths]

end Table

end QuantumKata.Console
