import MailBrowser.Browser.Crumb
import MailBrowser.Browser.Dialog
import MailBrowser.Browser.Effect
import MailBrowser.Browser.Ledger
import MailBrowser.Drill.Selection
import MailBrowser.Settings.Config

/-!
# The browser

* `Browser`         the whole state: the view, the way back, marks, search, scope, notices;
* `Step`            a browser after a transition, and what the transition asks for;
* `Browser.notify`  shows a notice for a while;
* `Browser.resize`  a new height of the screen;
* `Browser.path`    the way from the top to the view, in words.
-/

namespace MailBrowser

structure Browser where
  view : View := {}
  /-- the views to go back to, the last one first -/
  crumbs : List Crumb := []
  ledger : Ledger := {}
  selection : Selection := {}
  search : SearchSession := {}
  accounts : List Account := []
  /-- the account that is looked at, all if none -/
  account : Option Int := none
  attachmentsOnly : Bool := false
  /-- the totals of the scope -/
  stats : Option Stats := none
  loading : Bool := false
  /-- work that keys have to wait for -/
  busy : Option String := none
  error : Option String := none
  flash : Option String := none
  flashGeneration : Nat := 0
  dialog : Option Dialog := none
  /-- the rows of a list on screen -/
  pageSize : Nat := 20
  readingLines : Nat := 0
  tuning : Tuning
  quitting : Bool := false
deriving DecidableEq

abbrev Step := Browser × List Effect

namespace Browser

/-- a browser before its first loads -/
def new (tuning : Tuning) : Browser := { tuning }

/-! ## notices -/

/-- The notice goes when its time is over, unless another one has come. -/
def notify (b : Browser) (notice : String) : Step :=
  ({ b with flash := some notice, flashGeneration := b.flashGeneration + 1 },
    [.expireFlash b.tuning.flash (b.flashGeneration + 1)])

def expireFlash (b : Browser) (generation : Nat) : Browser :=
  if generation = b.flashGeneration then { b with flash := none } else b

/-! ## the size of the screen -/

/-- header, totals, borders and the bottom bar -/
def chromeHeight : Nat := 5

/-- the lines of a message on screen -/
def readingPage (b : Browser) : Nat := b.pageSize + 2

/-- the last line that a message can be scrolled to -/
def maxReadingScroll (b : Browser) : Nat := b.readingLines - b.readingPage

/-- the rows that a page key goes over -/
def pageRows (b : Browser) (half : Bool) : Nat :=
  let rows := if b.view.level = .reading then b.readingPage else b.pageSize
  if half then max (rows / 2) 1 else rows

def resize (b : Browser) (height : Nat) : Browser :=
  let b := { b with pageSize := max (height - chromeHeight) 1 }
  let v := (b.view.reveal b.pageSize).revealThread b.pageSize
  { b with view := { v with readingScroll := min v.readingScroll b.maxReadingScroll } }

/-! ## the way from the top -/

/-- the views from the top to the one on screen -/
def trail (b : Browser) : List View := (b.crumbs.reverse.map Crumb.view) ++ [b.view]

/-- what a view is called on the way -/
def stationName (v : View) : String :=
  match v.level with
  | .groups | .subgroups => v.dimension.label
  | .list =>
    if v.allMessages then "All messages"
    else if v.drillKey.isEmpty then "(empty)"
    else v.drillKey
  | .reading => "Message"
  | .thread => "Thread"

/-- a list without repetitions in a row -/
def dropRepeats : List String → List String
  | [] => []
  | [s] => [s]
  | s :: t :: r => if s = t then dropRepeats (t :: r) else s :: dropRepeats (t :: r)

def path (b : Browser) : String := " › ".intercalate (dropRepeats (b.trail.map stationName))

/-- the dimension of the first view -/
def topDimension (b : Browser) : Dimension := (b.trail.head?.getD b.view).dimension

end Browser
end MailBrowser
