import RestDeployment.Text.Width

/-!
# Tables

A table is drawn with rounded corners and a rule below its header.  A column is
as wide as its widest cell, plus a blank on either side, and cells are set flush
left.  Width is counted in columns of a terminal.
-/

namespace RestDeployment.Text

/-- A character repeated. -/
def repeated (c : Char) (n : Nat) : String := String.ofList (List.replicate n c)

/-- The lines of a cell. -/
def cellLines (cell : String) : List String := cell.splitOn "\n"

/-- The columns that a cell takes. -/
def cellWidth (cell : String) : Nat :=
  (cellLines cell).foldl (fun n line => max n (lineWidth line)) 0

/-- A table: a header and rows of as many cells. -/
structure Table where
  header : List String
  rows : List (List String)

namespace Table

/-- The width of every column. -/
def widths (t : Table) : List Nat :=
  t.rows.foldl (fun ws row => List.zipWith max ws (row.map cellWidth)) (t.header.map cellWidth)

/-- A horizontal line with these corners and crossings. -/
def rule (left crossing right : String) (widths : List Nat) : String :=
  left ++ String.intercalate crossing (widths.map fun w => repeated '─' (w + 2)) ++ right

/-- A cell's line, filled up to the width of the column. -/
def padded (width : Nat) (line : String) : String :=
  " " ++ line ++ repeated ' ' (width - lineWidth line + 1)

/-- The text lines of a row; it is as high as its highest cell. -/
def rowLines (widths : List Nat) (row : List String) : List String :=
  let cells := row.map cellLines
  let height := cells.foldl (fun n lines => max n lines.length) 0
  (List.range height).map fun i =>
    "│" ++ String.intercalate "│" (List.zipWith (fun w lines => padded w (lines.getD i ""))
      widths cells) ++ "│"

/-- The lines of a table.  A table without rows ends with the rule below its header. -/
def lines (t : Table) : List String :=
  let ws := t.widths
  [rule "╭" "┬" "╮" ws] ++ rowLines ws t.header ++ [rule "├" "┼" "┤" ws] ++
    t.rows.flatMap (rowLines ws) ++
    (if t.rows.isEmpty then [] else [rule "╰" "┴" "╯" ws])

/-- The text of a table. -/
def render (t : Table) : String := String.intercalate "\n" t.lines

end Table

end RestDeployment.Text
