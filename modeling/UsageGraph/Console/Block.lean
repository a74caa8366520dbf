import UsageGraph.Console.Markup
import UsageGraph.Console.Wrap
import UsageGraph.Json.Printer

/-!
# What a console shows

* `Table`: a title, columns and rows between box characters;
* `Block`: a text, a table, a panel or a JSON document;
* `Block.shown`: the block in characters;
* `Transcript`: blocks one after the other.
-/

namespace UsageGraph

/-- A column of a table: its heading, the width of its cells if that does not depend on them, and
the side its texts are on. -/
structure Column where
  heading : String
  width? : Option Nat := none
  toRight : Bool := false
  deriving DecidableEq, Repr

/-- **A table.** -/
structure Table where
  title : String
  columns : List Column
  rows : List (List String)
  deriving DecidableEq, Repr

namespace Table

/-- The lines of a cell at the width of its column. -/
def cellLines (width : Nat) (cell : String) : List String :=
  (Cells.lines cell).flatMap (Wrap.toWidth width)

/-- The width of each column without its padding: the one it was given, or that of its widest cell. -/
def widths (t : Table) : List Nat :=
  t.columns.mapIdx fun i c =>
    c.width?.getD (((c.heading :: t.rows.map fun r => r.getD i "").map Wrap.widest).foldl max 0)

/-- A line of box characters over the columns. -/
def border (widths : List Nat) (left fill middle right : Char) : String :=
  left.toString ++ Text.joined middle.toString (widths.map fun w => Cells.rule fill (w + 2)) ++
    right.toString

/-- A line of cells between bars. -/
def line (t : Table) (widths : List Nat) (bar : Char) (cells : List String) : String :=
  let parts := (t.columns.zip (widths.zip cells)).map fun (c, w, s) =>
    " " ++ (if c.toRight then Cells.padLeft w s else Cells.padRight w s) ++ " "
  bar.toString ++ Text.joined bar.toString parts ++ bar.toString

/-- The lines of a row: as many as its tallest cell has. -/
def rowLines (t : Table) (widths : List Nat) (bar : Char) (row : List String) : List String :=
  let cells := widths.mapIdx fun i w => cellLines w (row.getD i "")
  let height := (cells.map List.length).foldl max 1
  (List.range height).map fun k => t.line widths bar (cells.map fun ls => ls.getD k "")

/-- **The lines of a table**: the title, the headings and the rows. -/
def lines (t : Table) : List String :=
  let ws := t.widths
  let total := ws.foldl (fun n w => n + w + 3) 1
  Cells.centre ' ' total t.title :: border ws '┏' '━' '┳' '┓' ::
    (t.rowLines ws '┃' (t.columns.map Column.heading) ++ border ws '┡' '━' '╇' '┩' ::
      (t.rows.flatMap (t.rowLines ws '│') ++ [border ws '└' '─' '┴' '┘']))

end Table

/-- **A block of output.** -/
inductive Block where
  | text (s : String)
  | table (t : Table)
  | panel (title body : String)
  | json (value : Json)
  deriving DecidableEq, Repr

namespace Block

/-- The lines of a panel: a box around one line, with the title in its upper edge. -/
def panelLines (title body : String) : List String :=
  let w := Cells.width body
  ["╭─" ++ Cells.centre '─' w (" " ++ title ++ " ") ++ "─╮",
   "│ " ++ body ++ " │",
   "╰─" ++ Cells.rule '─' w ++ "─╯"]

/-- Lines, each with its line end. -/
def ended (lines : List String) : String := String.join (lines.map (· ++ "\n"))

/-- **The block in characters**, its last line end among them. -/
def shown : Block → String
  | .text s => ended (Cells.lines s)
  | .table t => ended t.lines
  | .panel title body => ended (panelLines title body)
  | .json v => v.ascii ++ "\n"

end Block

/-- Blocks in the order in which they are shown. -/
abbrev Transcript := List Block

/-- **The transcript in characters.** -/
def Transcript.text (t : Transcript) : String := String.join (t.map Block.shown)

end UsageGraph
