import DepTriage.Text.Split
import DepTriage.Text.Width

/-! # Tables

A table of texts, drawn with rounded corners and one line below its header. A column is as wide as
its widest cell, and a cell of several lines makes its row as high. -/

namespace DepTriage

structure Table where
  header : List String
  /-- Every row has as many cells as the header. -/
  rows : List (List String)
deriving DecidableEq, Repr, Inhabited

namespace Table

def cellLines (cell : String) : List (List Char) :=
  Text.splitAll '\n' cell.toList

def cellWidth (cell : String) : Nat :=
  (cellLines cell).foldl (fun width line => max width (Text.displayWidth line)) 0

def columnWidths (t : Table) : List Nat :=
  t.rows.foldl (fun widths row => List.zipWith max widths (row.map cellWidth))
    (t.header.map cellWidth)

/-- A text filled up with blanks to a width. -/
def padded (width : Nat) (text : List Char) : List Char :=
  text ++ List.replicate (width - Text.displayWidth text) ' '

/-- A line across the table. -/
def rule (left middle right : Char) (widths : List Nat) : List Char :=
  left :: (List.intercalate [middle] (widths.map fun w => List.replicate (w + 2) '─') ++ [right])

/-- The line with number `i` of a row. -/
def rowLine (widths : List Nat) (cells : List (List (List Char))) (i : Nat) : List Char :=
  '│' :: (List.zipWith (fun w lines => ' ' :: (padded w (lines[i]?.getD []) ++ [' ', '│']))
    widths cells).flatten

/-- The lines of a row, as many as its highest cell has. -/
def rowLines (widths : List Nat) (row : List String) : List (List Char) :=
  let cells := row.map cellLines
  let height := cells.foldl (fun height lines => max height lines.length) 1
  (List.range height).map (rowLine widths cells)

/-- The lines of a table. -/
def lines (t : Table) : List (List Char) :=
  let widths := t.columnWidths
  rule '╭' '┬' '╮' widths :: rowLines widths t.header
    ++ rule '├' '┼' '┤' widths :: t.rows.flatMap (rowLines widths)
    ++ [rule '╰' '┴' '╯' widths]

/-- The text of a table, of which every line is ended. -/
def toText (t : Table) : String :=
  String.ofList (t.lines.flatMap (· ++ ['\n']))

end Table

end DepTriage
