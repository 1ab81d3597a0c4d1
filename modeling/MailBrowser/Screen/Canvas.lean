import MailBrowser.Screen.Area
import MailBrowser.Screen.Style
import MailBrowser.Text.Width

/-!
# Canvases

A canvas is a grid of cells.  A cell holds a cluster and a style; a cluster of two columns stands
in the first of its cells and hides the second.

* `Canvas.paint`, `Canvas.wipe`   the style of an area, the text of an area;
* `Canvas.write`     a text from a cell on, with the cells that it hides emptied;
* `Canvas.print`     texts in an area, with marks put on the cluster before them;
* `Canvas.lay`       clusters with styles, one after the other, from a cell on;
* `Canvas.shown`     the cells of a row as a terminal shows them, `Canvas.runs` its styles.
-/

namespace MailBrowser
open Text

structure Cell where
  cluster : List Char := [' ']
  style : Style := .plain
deriving DecidableEq

instance : Inhabited Cell := ⟨{}⟩

structure Canvas where
  width : Nat
  height : Nat
  /-- row after row -/
  cells : Array Cell
  size_eq : cells.size = width * height

namespace Canvas

def blank (width height : Nat) : Canvas where
  width
  height
  cells := Array.replicate (width * height) {}
  size_eq := by simp

def area (c : Canvas) : Area := ⟨0, 0, c.width, c.height⟩

/-- a cell changed; outside the canvas there is nothing to change -/
def modify (c : Canvas) (x y : Nat) (f : Cell → Cell) : Canvas :=
  if x < c.width ∧ y < c.height then
    { c with
      cells := c.cells.modify (y * c.width + x) f
      size_eq := by rw [Array.size_modify]; exact c.size_eq }
  else c

def cell (c : Canvas) (x y : Nat) : Cell :=
  if x < c.width then (c.cells[y * c.width + x]?).getD {} else {}

/-- a cell with a cluster, in a style over its own -/
def put (c : Canvas) (x y : Nat) (cluster : List Char) (style : Style) : Canvas :=
  c.modify x y fun cell => { cluster, style := style.atop cell.style }

/-- a cell with marks added to its cluster -/
def addMarks (c : Canvas) (x y : Nat) (marks : List Char) (style : Style) : Canvas :=
  c.modify x y fun cell =>
    { cluster := cell.cluster ++ marks, style := style.atop cell.style }

/-- the `n` cells from a place on, emptied of text and style -/
def clearCells (c : Canvas) (x y : Nat) : Nat → Canvas
  | 0 => c
  | n + 1 => (c.modify x y fun _ => {}).clearCells (x + 1) y n

/-- all cells of an area changed -/
def modifyArea (c : Canvas) (a : Area) (f : Cell → Cell) : Canvas :=
  (List.range a.height).foldl (fun c dy =>
    (List.range a.width).foldl (fun c dx => c.modify (a.x + dx) (a.y + dy) f) c) c

def paint (c : Canvas) (a : Area) (style : Style) : Canvas :=
  c.modifyArea a fun cell => { cell with style := style.atop cell.style }

/-- Only the text goes; what is put there later has the old style under its own. -/
def wipe (c : Canvas) (a : Area) : Canvas :=
  c.modifyArea a fun cell => { cell with cluster := [' '] }

/-! ## text -/

/-- Writes clusters while there is room for them; those without a column are left out. -/
def writeClusters (c : Canvas) (x y room : Nat) (style : Style) : List (List Char) → Canvas
  | [] => c
  | g :: gs =>
    let w := textWidth g
    if w = 0 then c.writeClusters x y room style gs
    else if room < w then c
    else
      ((c.put x y g style).clearCells (x + 1) y (w - 1)).writeClusters
        (x + w) y (room - w) style gs

/-- a text from a cell on, in `room` columns at most -/
def write (c : Canvas) (x y room : Nat) (style : Style) (text : String) : Canvas :=
  c.writeClusters x y (min (c.width - x) room) style (shownClusters text)

/-- Prints clusters from column `x` up to the end of an area.  A cluster without a column goes to
the cell before it, or stays in the first one. -/
def printClusters (c : Canvas) (a : Area) (style : Style) (first : Bool) (x : Nat) :
    List (List Char) → Canvas
  | [] => c
  | g :: gs =>
    let w := textWidth g
    if a.right < x + w then c
    else
      let d :=
        if first then c.put x a.y g style
        else if x = a.x then c.addMarks x a.y g style
        else if w = 0 then c.addMarks (x - 1) a.y g style
        else c.put x a.y g style
      (d.clearCells (x + 1) a.y (w - 1)).printClusters a style false (x + w) gs

/-- Prints texts one after the other in the first row of an area.  Each starts where the columns of
those before it end, even if their clusters one by one take more; one without a column is left
out. -/
def print (c : Canvas) (a : Area) (style : Style) : List String → Canvas
  | [] => c
  | text :: texts =>
    let w := textWidth text.toList
    let room := min a.right c.width
    if w = 0 then c.print a style texts
    else if room ≤ a.x ∨ a.height = 0 then c
    else
      (c.printClusters { a with width := room - a.x } style true a.x (lineClusters text)).print
        (a.after w) style texts

/-- a piece of a line in one style -/
structure Span where
  text : String
  style : Style := .plain

/-- the clusters of a line with their styles -/
def spanClusters (spans : List Span) : List (List Char × Style) :=
  spans.flatMap fun s => (lineClusters s.text).map fun g => (g, s.style)

/-- Lays clusters until the first one that has no room; one that is wider than the whole line is
passed over. -/
def layClusters (c : Canvas) (x y used width : Nat) : List (List Char × Style) → Canvas
  | [] => c
  | (g, style) :: gs =>
    let w := textWidth g
    if width < w then c.layClusters x y used width gs
    else if width < used + w then c
    else if w = 0 then c.layClusters x y used width gs
    else (c.put (x + used) y g style).layClusters x y (used + w) width gs

/-- lines in an area, cut at its end -/
def lay (c : Canvas) (a : Area) (lines : List (List Span)) : Canvas :=
  (lines.take a.height).zipIdx.foldl (fun c l =>
    c.layClusters a.x (a.y + l.2) 0 a.width (spanClusters l.1)) c

/-! ## what a terminal shows -/

/-- a row, with an empty cell after every cluster of two columns -/
def shownFrom (hidden : Bool) : List Cell → List Cell
  | [] => []
  | cell :: cells =>
    (if hidden then {} else cell) :: shownFrom (decide (2 ≤ textWidth cell.cluster)) cells

def shown (c : Canvas) (y : Nat) : List Cell :=
  shownFrom false ((List.range c.width).map fun x => c.cell x y)

/-- the text of a row, without the blanks at its end -/
def rowText (c : Canvas) (y : Nat) : String :=
  .ofList (dropEndWhile isBlank ((c.shown y).flatMap Cell.cluster))

/-- stretches of cells in one style: start, length, style -/
structure Run where
  start : Nat
  length : Nat
  style : Style
deriving DecidableEq

/-- one cell before a list of stretches -/
def Run.cons (x : Nat) (style : Style) : List Run → List Run
  | r :: rs =>
    if r.style = style ∧ r.start = x + 1 then ⟨x, r.length + 1, style⟩ :: rs
    else ⟨x, 1, style⟩ :: r :: rs
  | [] => [⟨x, 1, style⟩]

/-- the stretches of a row that have a style -/
def runs (c : Canvas) (y : Nat) : List Run :=
  (c.shown y).zipIdx.foldr (fun cell rs =>
    if cell.1.style = .plain then rs else Run.cons cell.2 cell.1.style rs) []

end Canvas
end MailBrowser
