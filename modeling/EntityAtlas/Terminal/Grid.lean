import EntityAtlas.Terminal.Width

/-!
# Grids

A grid shows rows under headings between ruled lines. Every column is as wide as its widest cell or
its heading; a cell of several lines makes its row as high.
-/

namespace EntityAtlas.Terminal

/-- A column of a grid. -/
structure GridColumn where
  /-- Its heading. -/
  heading : String
  /-- Whether its cells stand at the right. -/
  right : Bool := false
  deriving DecidableEq, Repr

/-- A grid. -/
structure Grid where
  /-- The columns. -/
  columns : List GridColumn
  /-- The rows, a cell for each column. -/
  rows : List (List String)
  deriving DecidableEq, Repr

namespace Grid

/-- The lines of a cell. -/
def cellLines (cell : String) : List String := cell.splitOn "\n"

/-- The width of a cell. -/
def cellWidth (cell : String) : Nat := ((cellLines cell).map width).foldl max 0

/-- The widths of the columns. -/
def widths (g : Grid) : List Nat :=
  g.columns.zipIdx.map fun (column, i) =>
    (g.rows.map fun row => cellWidth (row.getD i "")).foldl max (cellWidth column.heading)

/-- A text repeated. -/
def repeated (n : Nat) (s : String) : String := String.join (List.replicate n s)

/-- One line of a cell, filled up with blanks to the width of its column. -/
def filled (column : GridColumn) (room : Nat) (line : String) : String :=
  let blanks := repeated (room - width line) " "
  " " ++ (if column.right then blanks ++ line else line ++ blanks) ++ " "

/-- A ruled line. -/
def ruled (left fill between right : String) (widths : List Nat) : String :=
  left ++ between.intercalate (widths.map fun n => repeated (n + 2) fill) ++ right

/-- The lines of a row between two marks. -/
def rowLines (columns : List GridColumn) (widths : List Nat) (mark : String) (cells : List String) :
    List String :=
  let cells := cells.map cellLines
  let height := (cells.map List.length).foldl max 1
  (List.range height).map fun k =>
    let parts := (columns.zip widths).zipIdx.map fun ((column, room), i) =>
      filled column room ((cells.getD i []).getD k "")
    mark ++ mark.intercalate parts ++ mark

/-- The lines of a grid. -/
def lines (g : Grid) : List String :=
  let widths := g.widths
  [ruled "┏" "━" "┳" "┓" widths]
    ++ rowLines g.columns widths "┃" (g.columns.map (·.heading))
    ++ [ruled "┡" "━" "╇" "┩" widths]
    ++ g.rows.flatMap (rowLines g.columns widths "│")
    ++ [ruled "└" "─" "┴" "┘" widths]

end Grid

end EntityAtlas.Terminal
