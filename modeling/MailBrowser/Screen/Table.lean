import MailBrowser.Browser.Window
import MailBrowser.Screen.Border

/-!
# Tables

* `Column`         a column has a width, or takes what the others leave;
* `TableRow`       the texts of a row, and its style;
* `Canvas.table`   a header and the rows from an offset on, with the row under the cursor
                   highlighted.
-/

namespace MailBrowser
open Text

inductive Column where
  | fixed (width : Nat)
  | rest
deriving DecidableEq, Repr

def Column.width? : Column → Option Nat
  | fixed width => some width
  | rest => none

structure TableRow where
  cells : List String
  style : Style := .plain

/-- what fixed columns, and a blank between any two columns, leave of a width -/
def restWidth (columns : List Column) (width : Nat) : Nat :=
  width - (columns.filterMap Column.width?).foldl (· + ·) 0 - (columns.length - 1)

/-- start and width of each column -/
def layColumns (rest x : Nat) : List Column → List (Nat × Nat)
  | [] => []
  | column :: columns =>
    let w := column.width?.getD rest
    (x, w) :: layColumns rest (x + w + 1) columns

/-- the first row of a table that shows its cursor -/
def tableStart (rows cursor offset height : Nat) : Nat :=
  windowStart (min cursor (rows - 1)) (min offset (rows - 1)) height

namespace Canvas

/-- the first line of each text, in its column -/
def tableRow (c : Canvas) (a : Area) (columns : List Column) (row : TableRow) : Canvas :=
  let places := layColumns (restWidth columns a.width) a.x columns
  (places.zip row.cells).foldl (fun c p =>
    c.print { a with x := p.1.1, width := min p.1.2 (a.right - p.1.1) } .plain
      ((lines p.2).take 1)) (c.paint a row.style)

def table (c : Canvas) (a : Area) (columns : List Column) (header : TableRow)
    (rows : List TableRow) (cursor offset : Nat) : Canvas :=
  if a.width = 0 ∨ a.height = 0 then c
  else
    let c := c.tableRow (a.row 0) columns header
    let height := a.height - 1
    let start := tableStart rows.length cursor offset height
    let c := (((rows.drop start).take height).zipIdx).foldl (fun c r =>
      c.tableRow (a.row (r.2 + 1)) columns r.1) c
    let place := min cursor (rows.length - 1) - start
    if rows.isEmpty || decide (height ≤ place) then c else c.paint (a.row (place + 1)) .highlight

end Canvas
end MailBrowser
