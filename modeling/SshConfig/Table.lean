import SshConfig.Text.Width

namespace SshConfig

/-! Tables drawn with lines, for a terminal.

A table has a row of column titles above its rows.  A cell may have several lines; its
row is then as high as its highest cell.

A table is written piece by piece, because what a reader of control sequences prints of it
depends on the pieces.  No line of a cell shares a piece with anything beside it.
-/

/-- A table.  Every row has a cell for every title. -/
structure Table where
  titles : List Text
  rows : List (List Text)
deriving DecidableEq, Repr

namespace Table

/-- The lines of a cell; an empty cell has one empty line. -/
def cellLines (cell : Text) : List Text :=
  Text.splitAll '\n' cell

/-- The columns of the terminal that a cell takes. -/
def cellWidth (cell : Text) : Nat :=
  ((cellLines cell).map Text.width).foldl max 0

/-- The width of each column: that of its widest cell. -/
def columnWidths (table : Table) : List Nat :=
  table.rows.foldl (fun widths row => List.zipWith max widths (row.map cellWidth))
    (table.titles.map cellWidth)

/-- A line of a cell in the pieces in which it is written: with a space on either side of
the text, and more spaces after it, so that it fills the column. -/
def cellPieces (columns : Nat) (text : Text) : List Text :=
  [[' '], text, List.replicate (columns - Text.width text + 1) ' ']

/-- A horizontal line across all columns. -/
def rule (left middle right : Char) (widths : List Nat) : List Text :=
  [left :: Text.join [middle] (widths.map fun columns => List.replicate (columns + 2) '─') ++
    [right]]

/-- One line of a row: a line of each cell, between vertical lines. -/
def rowLine (widths : List Nat) (texts : List Text) : List Text :=
  ['│'] :: (List.zipWith cellPieces widths texts).flatMap fun pieces => pieces ++ [['│']]

/-- The lines of a row.  Cells with fewer lines than others are filled up below. -/
def rowLines (widths : List Nat) (row : List Text) : List (List Text) :=
  let height := (row.map fun cell => (cellLines cell).length).foldl max 1
  (List.range height).map fun index =>
    rowLine widths (row.map fun cell => (cellLines cell).getD index [])

/-- The lines of a table.  The line below the titles closes a table without rows. -/
def lines (table : Table) : List (List Text) :=
  let widths := table.columnWidths
  let bottom := if table.rows.isEmpty then [] else [rule '└' '┴' '┘' widths]
  rule '┌' '┬' '┐' widths :: rowLines widths table.titles ++
    rule '├' '┼' '┤' widths :: table.rows.flatMap (rowLines widths) ++ bottom

/-- A table in the pieces in which it is written, without a line feed at its end.  Each
line feed is a piece. -/
def pieces (table : Table) : List Text :=
  [['\n']].intercalate table.lines

/-- A table as text. -/
def text (table : Table) : Text :=
  table.pieces.flatten

end Table

end SshConfig
