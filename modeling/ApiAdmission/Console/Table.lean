import ApiAdmission.Text.Search

/-!
# Framed tables

A table has a title, a row of headers and rows of cells.  It is drawn with a heavy frame around the
headers and a light one around the cells.  A column is as wide as its widest text and one blank on
either side; texts stand at the left, and the title in the middle.
-/

namespace ApiAdmission.Console

set_option autoImplicit false

/-- A table with a title. -/
structure Table where
  /-- What stands above it. -/
  title : String
  /-- The headers of the columns. -/
  headers : List String
  /-- The rows, each with a cell for every column. -/
  rows : List (List String)

namespace Table

/-- A number of copies of a character. -/
def run (c : Char) (count : Nat) : String := String.ofList (List.replicate count c)

/-- The widths of the columns, without the blanks beside the texts. -/
def widths (table : Table) : List Nat :=
  table.rows.foldl (fun widths row => List.zipWith max widths (row.map String.length))
    (table.headers.map String.length)

/-- The width of the whole table. -/
def width (table : Table) : Nat :=
  table.widths.foldl (fun total width => total + width + 3) 1

/-- A text in the middle of a width, with blanks on either side. -/
def centre (width : Nat) (text : String) : String :=
  let left := (width - text.length) / 2
  run ' ' left ++ text ++ run ' ' (width - text.length - left)

/-- A line of the frame: its ends, what crosses the columns, and what runs along them. -/
def frameLine (table : Table) (left along cross right : Char) : String :=
  String.singleton left ++
    Text.join (String.singleton cross) (table.widths.map fun width => run along (width + 2)) ++
    String.singleton right

/-- A line of texts between bars. -/
def textLine (table : Table) (bar : Char) (texts : List String) : String :=
  let cells := List.zipWith (fun width text => " " ++ text ++ run ' ' (width - text.length) ++ " ")
    table.widths texts
  let bar := String.singleton bar
  bar ++ Text.join bar cells ++ bar

/-- The lines of a table. -/
def lines (table : Table) : List String :=
  [centre table.width table.title, table.frameLine '┏' '━' '┳' '┓',
    table.textLine '┃' table.headers, table.frameLine '┡' '━' '╇' '┩'] ++
    table.rows.map (table.textLine '│') ++ [table.frameLine '└' '─' '┴' '┘']

end Table

end ApiAdmission.Console
