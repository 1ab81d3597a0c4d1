import MailBrowser.Screen.Dialogs
import MailBrowser.Screen.Lists
import MailBrowser.Screen.Reading

/-!
# The whole screen

* `Browser.picture`   the screen of a browser: header, list or message, bottom line, and over them
                      a dialog, work in progress or a notice.
-/

namespace MailBrowser
namespace Browser

/-- the part between the header and the bottom line -/
def drawMain (b : Browser) (c : Canvas) (a : Area) : Canvas :=
  match b.view.level with
  | .groups | .subgroups => b.drawRows c a
  | .list => b.drawMessages c a
  | .thread => b.drawThread c a
  | .reading => b.drawReading c a

/-- Work in progress hides a notice, and so does a dialog. -/
def drawNotice (b : Browser) (c : Canvas) (ticks : Nat) : Canvas :=
  match b.busy, b.dialog, b.flash with
  | some work, _, _ => drawBusy c work ticks
  | none, none, some notice => drawFlash c notice
  | _, _, _ => c

/-- Three parts of a screen.  The part in the middle has a row of its own even if the bottom line,
or the header as well, has to go for it. -/
def parts (width height : Nat) : Area × Area × Area :=
  let head := if 2 ≤ height then 1 else 0
  let bottom := if 3 ≤ height then 1 else 0
  (⟨0, 0, width, head⟩, ⟨0, head, width, height - head - bottom⟩,
    ⟨0, height - bottom, width, bottom⟩)

def picture (b : Browser) (width height ticks : Nat) : Canvas :=
  let (head, middle, bottom) := parts width height
  let c := Canvas.blank width height
  let c := b.drawHeader c head
  let c := b.drawMain c middle
  let c := b.drawBottom c bottom ticks
  let c := match b.dialog with
    | some d => b.drawDialog c d
    | none => c
  b.drawNotice c ticks

end Browser
end MailBrowser
