import MailBrowser.Browser.Basic
import MailBrowser.Screen.Table

/-!
# Lists on screen

* `drawRows`       the table of groups;
* `drawMessages`   the table of a message list;
* `drawThread`     the table of a thread.
-/

namespace MailBrowser
namespace Browser
open Text

/-- the mark of what is selected -/
def markText (marked : Bool) : String := if marked then "●" else " "

/-- the empty key in words -/
def keyText (key : String) : String := if key.isEmpty then "(empty)" else key

def loadingText : String := "| loading… "

def headerStyle : Style := { underlined := true }

/-! ## groups -/

def rowsTitle (b : Browser) : String :=
  let v := b.view
  " " ++ v.dimension.label ++
    (if v.dimension = .time then " by " ++ v.granularity.label else "") ++
    (match v.data.rows.head? with
      | some r => " (" ++ decimal r.unique ++ " unique)"
      | none => "") ++
    " | sort: " ++ v.rowField.label ++ " " ++ v.rowDirection.arrow ++ " " ++
    (if v.query.isEmpty then "" else "| search: " ++ v.query ++ " ") ++
    (if b.loading then loadingText else "")

def rowColumns : List Column := [.fixed 1, .rest, .fixed 8, .fixed 10, .fixed 12]

def rowLine (b : Browser) (r : Row) : TableRow where
  cells := [
    markText (b.selection.dimension = b.view.dimension ∧ r.key ∈ b.selection.keys), keyText r.key,
    decimal r.count, sizeText r.size, sizeText r.attachmentSize]
  style := if r.key.isEmpty then .ofColour .darkGray else .plain

def drawRows (b : Browser) (c : Canvas) (a : Area) : Canvas :=
  let v := b.view
  (c.frame a b.rowsTitle .plain).table a.inside rowColumns
    { cells := ["", v.dimension.label, "Count", "Size", "Attachments"], style := headerStyle }
    (v.data.rows.map b.rowLine) v.window.cursor v.window.scroll

/-! ## messages -/

/-- the results of a search, and how many there are -/
def searchTitle (b : Browser) : String :=
  let loaded := decimal b.view.data.messages.length
  " | " ++ b.search.mode.label ++ " search \"" ++ b.view.query ++ "\": " ++ loaded ++ " of " ++
    if b.search.total = -1 then loaded ++ "+" else decimal b.search.total

def listTitle (b : Browser) : String :=
  let v := b.view
  let described := v.filter.describe
  (if v.allMessages then " All messages"
    else if described.isEmpty then " Messages"
    else " " ++ described) ++
    (if v.query.isEmpty then " (" ++ decimal v.data.messages.length ++ ")" else b.searchTitle) ++
    " | sort: " ++ v.messageField.label ++ " " ++ v.messageDirection.arrow ++ " " ++
    if b.loading || b.search.loading || b.search.loadingMore then loadingText else ""

def messageColumns : List Column := [.fixed 1, .fixed 12, .fixed 24, .fixed 2, .rest, .fixed 9]

def messageHeader : TableRow where
  cells := ["", "Date", "From", "", "Subject", "Size"]
  style := headerStyle

def messageLine (marked : Bool) (style : Style) (m : Summary) : TableRow where
  cells := [
    markText marked, m.sentAt.dayOfYear,
    if m.senderName.isEmpty then m.senderEmail else m.senderName,
    if m.hasAttachments then "📎" else " ", m.subject, sizeText m.size]
  style

/-- a frame with a text in the middle -/
def drawNothing (c : Canvas) (a : Area) (text : String) : Canvas :=
  c.write (a.x + (a.width - text.utf8ByteSize) / 2) (a.y + a.height / 2) a.width
    (.ofColour .darkGray) text

def drawMessages (b : Browser) (c : Canvas) (a : Area) : Canvas :=
  let v := b.view
  let c := c.frame a b.listTitle .plain
  if v.data.messages.isEmpty && !b.loading && !b.search.loading then
    drawNothing c a.inside "No messages"
  else
    c.table a.inside messageColumns messageHeader
      (v.data.messages.map fun m => messageLine (m.id ∈ b.selection.messages) .plain m)
      v.window.cursor v.window.scroll

/-! ## threads -/

def threadTitle (b : Browser) : String :=
  let ms := b.view.data.thread
  " Thread: " ++ ((ms.head?.map Summary.subject).getD "") ++ " (" ++ decimal ms.length ++
    " messages" ++
    (if b.view.threadCut then ", first " ++ decimal b.tuning.threadLimit ++ " shown" else "") ++
    ") "

/-- Answers of others stand out from the messages of the one who began. -/
def threadLine (first : String) (m : Summary) : TableRow :=
  messageLine false (if m.senderEmail = first then .plain else .ofColour .cyan) m

def drawThread (b : Browser) (c : Canvas) (a : Area) : Canvas :=
  let ms := b.view.data.thread
  let first := (ms.head?.map Summary.senderEmail).getD ""
  (c.frame a b.threadTitle .plain).table a.inside messageColumns messageHeader
    (ms.map (threadLine first)) b.view.threadWindow.cursor b.view.threadWindow.scroll

end Browser
end MailBrowser
