import Leasehold.Text.Lines
import Leasehold.Text.Width

/-!
# Boxed tables

A table of text cells drawn with box characters: a double rule under the
heading, dotted lines between columns and between rows.  A column is as wide as
its widest line, each cell is padded by one blank on either side, and a cell of
several lines makes its row as high as the highest cell.  Every line of a table
has the same shape, a list of cells between borders.
-/

namespace Leasehold.Text

/-- A heading and rows below it. -/
structure Grid where
  heading : List String
  rows : List (List String)

namespace Grid

/-- The lines of a cell. -/
def cellLines (cell : String) : List String := splitLines cell

/-- The columns that a cell needs. -/
def cellWidth (cell : String) : Nat := (cellLines cell).foldl (fun w l => max w (width l)) 0

/-- The larger width of each column. -/
def widen : List Nat → List String → List Nat
  | [], cells => cells.map cellWidth
  | ws, [] => ws
  | w :: ws, c :: cs => max w (cellWidth c) :: widen ws cs

/-- The width of every column. -/
def widths (g : Grid) : List Nat := (g.heading :: g.rows).foldl widen []

/-- A line of a cell, filled up with blanks. -/
def padLine (columns : Nat) (line : String) : String :=
  " " ++ line ++ "".pushn ' ' (columns - width line) ++ " "

/-- A horizontal rule. -/
def rule (left fill cross right : String) (ws : List Nat) : String :=
  left ++ joinWith cross (ws.map fun w => String.join (List.replicate (w + 2) fill)) ++ right

/-- The lines of one row, blank where a cell has fewer lines than the row. -/
def rowLines (ws : List Nat) (cells : List String) : List String :=
  let split := cells.map cellLines
  let height := split.foldl (fun h ls => max h ls.length) 1
  (List.range height).map fun i =>
    "│" ++ joinWith "┆" ((ws.zip split).map fun (w, ls) => padLine w (ls.getD i "")) ++ "│"

/-- All lines of the table. -/
def lines (g : Grid) : List String :=
  let ws := g.widths
  let body := (g.rows.map (rowLines ws)).intersperse [rule "├" "╌" "┼" "┤" ws]
  [rule "┌" "─" "┬" "┐" ws] ++ rowLines ws g.heading ++
    (if g.rows.isEmpty then [] else rule "╞" "═" "╪" "╡" ws :: body.flatten) ++
    [rule "└" "─" "┴" "┘" ws]

/-- The text of the table, without a line break at its end. -/
def render (g : Grid) : String := joinWith "\n" g.lines

example : lines ⟨["a", "b"], [["1", "x\ny"], ["22", ""]]⟩ =
    ["┌────┬───┐", "│ a  ┆ b │", "╞════╪═══╡", "│ 1  ┆ x │", "│    ┆ y │", "├╌╌╌╌┼╌╌╌┤",
      "│ 22 ┆   │", "└────┴───┘"] := by
  decide +kernel

end Grid

end Leasehold.Text
