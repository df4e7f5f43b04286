import CaskAudit.Text.Pieces
import CaskAudit.Text.Width

/-!
# Tables

Lays out rows of cells in columns without rules. Each column is as wide as its widest line, counted
in terminal cells, with a blank on either side; a cell with line breaks takes several lines.
-/

namespace CaskAudit.Table

open CaskAudit.Text

/-- The number of terminal cells that a text takes. -/
def widthOf (s : List Char) : Nat := displayWidth s

/-- A text with blanks after it up to a width. -/
def pad (width : Nat) (s : List Char) : List Char :=
  s ++ List.replicate (width - widthOf s) ' '

/-- The lines of a cell. -/
def cellLines (cell : String) : List (List Char) := splitOn '\n' cell.toList

/-- The width of a cell, which is that of its widest line. -/
def cellWidth (cell : String) : Nat := (cellLines cell).foldl (fun w l => max w (widthOf l)) 0

/-- The widths of the columns of a table with a number of columns. -/
def columnWidths (columns : Nat) (rows : List (List String)) : List Nat :=
  (List.range columns).map fun i =>
    rows.foldl (fun w row => max w (cellWidth (row.getD i ""))) 0

/-- A line of a row: one line of each cell, in its column. -/
def rowLine (widths : List Nat) (cells : List (List Char)) : List Char :=
  (widths.zip cells).flatMap fun (width, cell) => ' ' :: pad width cell ++ [' ']

/-- The lines of a row. -/
def rowLines (widths : List Nat) (row : List String) : List (List Char) :=
  let cells := row.map cellLines
  let height := cells.foldl (fun h c => max h c.length) 0
  (List.range height).map fun i => rowLine widths (cells.map (·.getD i []))

/-- The lines of a table with a head. -/
def render (head : List String) (rows : List (List String)) : List String :=
  let all := head :: rows
  let widths := columnWidths head.length all
  (all.flatMap (rowLines widths)).map String.ofList

end CaskAudit.Table
