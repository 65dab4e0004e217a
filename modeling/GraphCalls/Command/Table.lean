/-
Tables of text, drawn with lines.

    ╭──────┬────────╮
    │ Name │ Kind   │
    ├──────┼────────┤
    │ User │ OBJECT │
    ╰──────┴────────╯

A column is as wide as its widest line. A cell may have many lines, and a row
is as high as its highest cell.
-/
import GraphCalls.Unicode.Width

namespace GraphCalls
namespace Table

abbrev Cell := List (List Char)

/-- The lines of a text. -/
def lines : List Char → Cell
  | [] => [[]]
  | c :: cs =>
    match lines cs with
    | [] => [[c]]
    | l :: ls => if c = '\n' then [] :: l :: ls else (c :: l) :: ls

def cellWidth (c : Cell) : Nat := (c.map Unicode.width).foldl max 0

/-- The widths of the columns, so far given those of the rows before. -/
def widen : List Nat → List Cell → List Nat
  | [], cells => cells.map cellWidth
  | ws, [] => ws
  | w :: ws, c :: cells => max w (cellWidth c) :: widen ws cells

def columnWidths (rows : List (List Cell)) : List Nat := rows.foldl widen []

/-- A line between rows: its start, the crossing of two columns, its end. -/
def rule (left cross right : Char) (widths : List Nat) : List Char :=
  left :: ([cross].intercalate (widths.map fun w => List.replicate (w + 2) '─') ++ [right])

/-- Text with blanks up to a width, and one on each side. -/
def pad (width : Nat) (line : List Char) : List Char :=
  ' ' :: (line ++ List.replicate (width - Unicode.width line + 1) ' ')

/-- The n-th line of each cell of a row. -/
def rowLine (widths : List Nat) (row : List Cell) (n : Nat) : List Char :=
  '│' :: (['│'].intercalate ((widths.zip row).map fun (w, c) => pad w (c.getD n [])) ++ ['│'])

def rowLines (widths : List Nat) (row : List Cell) : List (List Char) :=
  (List.range ((row.map List.length).foldl max 1)).map (rowLine widths row)

/-- The lines of a table with a header. -/
def draw (header : List String) (rows : List (List String)) : List (List Char) :=
  let cells (row : List String) : List Cell := row.map fun s => lines s.toList
  let widths := columnWidths (cells header :: rows.map cells)
  rule '╭' '┬' '╮' widths :: rowLines widths (cells header) ++
    rule '├' '┼' '┤' widths :: rows.flatMap (fun row => rowLines widths (cells row)) ++
    [rule '╰' '┴' '╯' widths]

/-- The text of a table, or of its absence if there are no rows. -/
def text (header : List String) (rows : List (List String)) : String :=
  if rows.isEmpty then "Nothing to show."
  else String.ofList (['\n'].intercalate (draw header rows))

end Table
end GraphCalls
