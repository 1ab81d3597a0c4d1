import MailBrowser.Screen.Canvas

/-!
# Borders

* `Canvas.title`     a text in a border;
* `Canvas.frame`     a border on all sides of an area, with a title at the left;
* `Canvas.topLine`   a border at the top alone.
-/

namespace MailBrowser
namespace Canvas
open Text

/-- a character in every cell of an area -/
def fill (c : Canvas) (a : Area) (ch : Char) (style : Style) : Canvas :=
  c.modifyArea a fun cell => { cluster := [ch], style := style.atop cell.style }

/-- the columns of texts one after the other -/
def lineWidth (texts : List String) : Nat := texts.foldl (fun w t => w + textWidth t.toList) 0

/-- a title at the start of an area, as wide as it says it is; its lines come one after the other -/
def title (c : Canvas) (a : Area) (text : String) : Canvas :=
  c.print { a with width := min (lineWidth (lines text)) a.width } .plain (lines text)

/-- the four sides and corners of an area; the upper left corner wins where they meet -/
def border (c : Canvas) (a : Area) (style : Style) : Canvas :=
  if a.width = 0 ∨ a.height = 0 then c
  else
    let left : Area := { a with width := 1 }
    let right : Area := { a with x := a.right - 1, width := 1 }
    let bottom : Area := { a with y := a.bottom - 1, height := 1 }
    ((((((((c.fill left '│' style).fill (a.row 0) '─' style).fill right '│' style).fill
      bottom '─' style).put (a.right - 1) (a.bottom - 1) ['┘'] style).put
      (a.right - 1) a.y ['┐'] style).put a.x (a.bottom - 1) ['└'] style).put a.x a.y ['┌'] style)

/-- a border with a title right after the corner -/
def frame (c : Canvas) (a : Area) (title : String) (style : Style) : Canvas :=
  let head : Area := { a with x := a.x + 1, width := a.width - 2, height := min a.height 1 }
  (c.border a style).title head title

def topLine (c : Canvas) (a : Area) (title : String) : Canvas :=
  let head : Area := { a with height := min a.height 1 }
  (c.fill head '─' .plain).title head title

end Canvas
end MailBrowser
