import MailBrowser.Browser.Basic
import MailBrowser.Screen.Border

/-!
# The message on screen

* `drawReading`   the lines of a message from the scroll position on, with hits marked.
-/

namespace MailBrowser
namespace Browser
open Text

def readingTitle (v : View) : String :=
  " Message " ++ decimal (v.readingIndex + 1 : Nat) ++ " of " ++ decimal v.readingList.length ++ " "

def headerNames : List String := ["From:", "To:", "Cc:", "Bcc:", "Date:", "Subject:", "Labels:"]

def isHeaderLine (line : String) : Bool := headerNames.any fun h => line.startsWith h

/-- A line of a message, with its number.  A plain one loses the marks of line ends inside of it. -/
def readingLine (f : Find) (line : String) (n : Nat) : List Canvas.Span :=
  if f.line? = some n then [⟨"▶ " ++ line, .highlight⟩]
  else if n ∈ f.hits ∧ !f.text.isEmpty then [⟨line, .ofColour .yellow⟩]
  else if isHeaderLine line then [⟨line, .ofColour .cyan⟩]
  else (lines line).map fun l => ⟨l, .plain⟩

def drawReading (b : Browser) (c : Canvas) (a : Area) : Canvas :=
  let v := b.view
  match v.data.detail with
  | none =>
    let waiting := if b.loading then "Loading " ++ v.pendingSubject ++ "…" else ""
    (((c.paint a (.ofColour .darkGray)).topLine a (readingTitle v))).lay a.belowTop
      ((lines waiting).map fun l => [⟨l, .plain⟩])
  | some d =>
    let spans := (d.lines.zipIdx.drop v.readingScroll).map fun l => readingLine v.find l.1 l.2
    (c.topLine a (readingTitle v)).lay a.belowTop spans

end Browser
end MailBrowser
