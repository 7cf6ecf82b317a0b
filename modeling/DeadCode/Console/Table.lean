import DeadCode.Console.Wrap

/-!
# Tables on a console

A table with a heavy line around its head and a title above it. A column is as wide as its widest cell, and a blank stands
on each side of a cell.
-/

namespace DeadCode.Console
set_option autoImplicit false

/-- Where a text stands in its space. -/
inductive Justify where
  | left
  | centre
  | right
  deriving DecidableEq, Repr

/-- A text in its space. -/
def Justify.place (j : Justify) (n : Nat) (s : String) : String :=
  match j with
  | .left => Text.alignLeft n s
  | .centre => Text.alignCentre n s
  | .right => Text.alignRight n s

/-- A column. -/
structure Column where
  head : String
  justify : Justify := .left

/-- A table. -/
structure Table where
  title : String
  titleJustify : Justify := .centre
  columns : List Column
  rows : List (List String)

namespace Table

/-- The width of each column. -/
def widths (t : Table) : List Nat :=
  t.columns.mapIdx fun i c => ((t.rows.map fun r => Text.width ((r[i]?).getD "")).foldl max (Text.width c.head))

/-- A line of one sign between the columns. -/
def rule (first fill middle last : String) (widths : List Nat) : String :=
  first ++ Text.join middle (widths.map fun n => String.join (List.replicate (n + 2) fill)) ++ last

/-- A row of cells. -/
def row (side : String) (columns : List (Column × Nat)) (cells : List String) : String :=
  let shown := columns.mapIdx fun i c => " " ++ c.1.justify.place c.2 ((cells[i]?).getD "") ++ " "
  side ++ Text.join side shown ++ side

/-- The lines of a table. -/
def lines (t : Table) : List String :=
  let ws := t.widths
  let columns := t.columns.zip ws
  let total := ws.foldl (fun n w => n + w + 3) 1
  (wrap total t.title).map (t.titleJustify.place total) ++
    [rule "┏" "━" "┳" "┓" ws, row "┃" columns (t.columns.map (·.head)), rule "┡" "━" "╇" "┩" ws] ++
    t.rows.map (row "│" columns) ++ [rule "└" "─" "┴" "┘" ws]

/-- What a console writes for a table. -/
def render (t : Table) : String := String.join (t.lines.map (· ++ "\n"))

end Table
end DeadCode.Console
