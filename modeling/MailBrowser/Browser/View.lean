import MailBrowser.Browser.Window
import MailBrowser.Drill.Filter
import MailBrowser.Group.Order
import MailBrowser.Group.Row
import MailBrowser.Mail.Message

/-!
# Views

* `Level`      the kinds of screens;
* `Loaded`     what has been loaded for a screen;
* `Find`       looking for a text in the message on screen;
* `View`       all that one screen needs to be drawn and taken up again.
-/

namespace MailBrowser

inductive Level where
  /-- the rows of the whole archive, the rows within a drill -/
  | groups | subgroups
  | list | reading | thread
deriving DecidableEq, Repr, Inhabited

def Level.isGrouped : Level → Bool
  | groups | subgroups => true
  | list | reading | thread => false

structure Loaded where
  rows : List Row := []
  messages : List Summary := []
  thread : List Summary := []
  detail : Option Detail := none
deriving DecidableEq

structure Find where
  /-- the open input line -/
  input : Option String := none
  text : String := ""
  /-- the numbers of the lines that hold the text -/
  hits : List Nat := []
  /-- the hit to look at -/
  hit : Nat := 0
deriving DecidableEq

/-- the line of the hit to look at -/
def Find.line? (f : Find) : Option Nat := if f.text.isEmpty then none else f.hits[f.hit]?

structure View where
  level : Level := .groups
  dimension : Dimension := .senders
  /-- the dimension of the rows that this view was drilled from -/
  origin : Option Dimension := none
  filter : Filter := {}
  /-- the key of the row last drilled into -/
  drillKey : String := ""
  /-- the list of all messages, not of a drill -/
  allMessages : Bool := false
  window : Window := {}
  /-- the totals of what is shown -/
  totals : Option Stats := none
  query : String := ""
  rowField : RowField := .count
  rowDirection : Direction := .desc
  messageField : MessageField := .date
  messageDirection : Direction := .desc
  granularity : Granularity := .month
  /-- the place of the message on screen in its list, which may be the thread -/
  readingIndex : Nat := 0
  readingFromThread : Bool := false
  readingScroll : Nat := 0
  /-- the subject of a message that is being loaded -/
  pendingSubject : String := ""
  find : Find := {}
  conversation : Int := 0
  threadWindow : Window := {}
  /-- the thread is longer than what is shown of it -/
  threadCut : Bool := false
  data : Loaded := {}
deriving DecidableEq

namespace View

/-- the length of the list that the cursor walks -/
def listLength (v : View) : Nat :=
  match v.level with
  | .groups | .subgroups => v.data.rows.length
  | .list => v.data.messages.length
  | .thread => v.data.thread.length
  | .reading => 0

def row? (v : View) : Option Row := v.data.rows[v.window.cursor]?

def message? (v : View) : Option Summary := v.data.messages[v.window.cursor]?

def threadMessage? (v : View) : Option Summary := v.data.thread[v.threadWindow.cursor]?

/-- the list that the message on screen belongs to -/
def readingList (v : View) : List Summary :=
  if v.readingFromThread then v.data.thread else v.data.messages

def reveal (v : View) (page : Nat) : View := { v with window := v.window.reveal page }

def revealThread (v : View) (page : Nat) : View :=
  { v with threadWindow := v.threadWindow.reveal page }

/-- the view with the cursor of the list, or of the thread, on a row -/
def moveTo (v : View) (row page : Nat) : View := { v with window := v.window.moveTo row page }

def moveToInThread (v : View) (row page : Nat) : View :=
  { v with threadWindow := v.threadWindow.moveTo row page }

/-- the cursor brought back into the list -/
def clampCursor (v : View) (page : Nat) : View :=
  v.moveTo (min v.window.cursor (v.listLength - 1)) page

def clearFind (v : View) : View := { v with find := {} }

end View
end MailBrowser
