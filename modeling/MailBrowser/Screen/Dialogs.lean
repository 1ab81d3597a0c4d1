import MailBrowser.Browser.Basic
import MailBrowser.Screen.Bars
import MailBrowser.Screen.Border

/-!
# What stands over the screen

* `drawDialog`    a question, a list of choices, or the keys;
* `drawBusy`      work that keys have to wait for;
* `drawFlash`     a notice.
-/

namespace MailBrowser
namespace Browser
open Text

/-! ## questions -/

def isWarning (line : String) : Bool := line.startsWith "⚠"

/-- lines in an area, each in its style -/
def writeLines (c : Canvas) (a : Area) (ls : List (String × Style)) : Canvas :=
  ((ls.take a.height).zipIdx).foldl (fun c l => c.write a.x (a.y + l.2) a.width l.1.2 l.1.1) c

def drawQuestion (c : Canvas) (a : Area) (question : List String) : Canvas :=
  let c := ((c.wipe a).paint a (.ofColour .red)).frame a " Confirm " .plain
  writeLines c a.inside (question.map fun l =>
    (l, .ofColour (if isWarning l then .yellow else .white)))

/-! ## choices -/

def choiceHint : String := "j/k: move | Enter: select | Esc: cancel"

def exportHint : String := "Space: toggle | a: all | n: none | Enter: export | Esc: cancel"

/-- As many choices as there is room for, so that the one under the cursor is shown; the last line
is for the hint. -/
def drawChoices (c : Canvas) (a : Area) (title : String) (choices : List String) (cursor : Nat)
    (hint : String) : Canvas :=
  let c := (c.wipe a).frame a (" " ++ title ++ " ") .plain
  let a := a.inside
  let room := a.height - 2
  let skip := cursor - (room - 1)
  let ls := ((choices.zipIdx.drop skip).take room).map fun l =>
    (l.1, if l.2 = cursor then Style.highlight else .plain)
  (writeLines c a ls).write a.x (a.y + (a.height - 1)) a.width (.ofColour .darkGray) hint

def accountChoices (b : Browser) : List String :=
  "All accounts" :: b.accounts.map fun a =>
    if a.displayName.isEmpty then a.identifier
    else a.identifier ++ " (" ++ a.displayName ++ ")"

def scopeChoices : List String := ["All messages", "Only messages with attachments"]

/-- the attachments of the message on screen, with boxes -/
def attachmentChoices (b : Browser) (chosen : OrdSet Nat) : List String :=
  let as := (b.view.data.detail.map Detail.attachments).getD []
  as.zipIdx.map fun a =>
    (if a.2 ∈ chosen then "[x] " else "[ ] ") ++ a.1.filename ++ " (" ++ sizeText a.1.size ++ ")"

/-! ## keys -/

def helpLines : List String := [
  "Navigation",
  "  j/k ↑/↓       move            PgUp/PgDn ^u/^d  page",
  "  Enter         drill / open    Esc              back",
  "  a             all messages    g/Tab            next grouping",
  "  t             time (again: granularity; in a drilled list: by time)",
  "  T             thread view     ←/→ h/l          prev/next message",
  "  Home/End      first/last      g/G              top/bottom of message",
  "Sorting and search",
  "  s             sort field      r/v              reverse",
  "  /             search (Tab in the list switches fast/deep)",
  "  / n N         find in message, next/previous match",
  "Selection",
  "  Space         toggle          S                select visible",
  "  x             clear           d/D              stage deletion",
  "Filters",
  "  A             account         f                attachments",
  "  e             export attachments (message view)",
  "",
  "q: quit   any key: close"]

/-- a line of the help: headings are coloured -/
def helpLine (line : String) : Canvas.Span :=
  ⟨line, if line.isEmpty || line.startsWith " " then .plain else .ofColour .cyan⟩

def drawHelp (c : Canvas) (a : Area) : Canvas :=
  ((c.wipe a).frame a " Keys " .plain).lay a.inside (helpLines.map fun l => [helpLine l])

def drawDialog (b : Browser) (c : Canvas) (d : Dialog) : Canvas :=
  match d with
  | .help => drawHelp c (c.area.centered 70 80)
  | .quit | .deletion _ => drawQuestion c (c.area.centered 60 30) d.question
  | .account cursor =>
    drawChoices c (c.area.centered 60 50) "Select Account" b.accountChoices cursor choiceHint
  | .attachmentScope cursor =>
    drawChoices c (c.area.centered 50 30) "Filter" scopeChoices cursor choiceHint
  | .attachments cursor chosen =>
    drawChoices c (c.area.centered 60 50) "Export Attachments" (b.attachmentChoices chosen) cursor
      exportHint

/-! ## notices -/

/-- the width of a box for lines, with a margin; a character counts as a column -/
def boxWidth (c : Canvas) (widest : Nat) : Nat := min (max (widest + 4) 20) (c.width - 4)

/-- lines in the middle of a box -/
def drawBox (c : Canvas) (ls : List String) (height : Nat) (colour : Colour) : Canvas :=
  let widest := (ls.map String.length).foldl max 0
  let a := c.area.boxed (boxWidth c widest) height
  let c := (c.wipe a).frame a "" (.ofColour colour)
  let inner := a.inside
  ((ls.take inner.height).zipIdx).foldl (fun c l =>
    c.write (inner.x + (inner.width - l.1.length) / 2) (inner.y + l.2) inner.width
      { colour := some colour, bold := true } l.1) c

def drawBusy (c : Canvas) (work : String) (ticks : Nat) : Canvas :=
  drawBox c [spinner ticks ++ " " ++ work] 3 .cyan

def drawFlash (c : Canvas) (notice : String) : Canvas :=
  let ls := lines notice
  drawBox c ls (min (ls.length + 2) c.height) (if isWarning notice then .yellow else .white)

end Browser
end MailBrowser
