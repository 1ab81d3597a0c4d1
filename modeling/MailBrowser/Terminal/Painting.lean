import MailBrowser.Screen.Canvas
import MailBrowser.Text.Numeral

/-!
# Painting on a terminal

* `Canvas.painting`   the text that makes a terminal show a canvas;
* `Painting.enter`, `Painting.leave`   a screen of its own for the browser, and back.
-/

namespace MailBrowser
open Text

namespace Painting

/-- a control sequence -/
def control (body : String) : String := "\x1b[" ++ body

/-- the number of a colour among the sixteen of a terminal -/
def colourNumber : Colour → Nat
  | .red => 1
  | .yellow => 3
  | .magenta => 5
  | .cyan => 6
  | .darkGray => 8
  | .white => 15

/-- the sequence that sets a style, whatever was set before -/
def pen (s : Style) : String :=
  control <| "0" ++
    (match s.colour with
      | some c => ";38;5;" ++ decimal (colourNumber c)
      | none => "") ++
    (if s.bold then ";1" else "") ++
    (if s.underlined then ";4" else "") ++ "m"

/-- the sequence that goes to the start of a row -/
def rowStart (y : Nat) : String := control (decimal (y + 1 : Nat) ++ ";1H")

/-- Cells in a row.  A cell that a wide cluster hides is skipped, and the pen is changed only
where the style changes. -/
def cells (current : Style) (hidden : Bool) : List Cell → List String
  | [] => []
  | cell :: rest =>
    if hidden then cells current false rest
    else
      let wide := decide (2 ≤ textWidth cell.cluster)
      let text := String.ofList cell.cluster
      (if cell.style = current then text else pen cell.style ++ text) ::
        cells cell.style wide rest

def enter : String := control "?1049h" ++ control "?25l"

def leave : String := control "0m" ++ control "?1049l" ++ control "?25h"

end Painting

def Canvas.painting (c : Canvas) : String :=
  String.join <| (List.range c.height).flatMap fun y =>
    Painting.rowStart y :: Painting.pen .plain ::
      Painting.cells .plain false ((List.range c.width).map fun x => c.cell x y)

end MailBrowser
