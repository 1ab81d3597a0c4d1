import MailBrowser.Browser.Basic
import MailBrowser.Screen.Canvas

/-!
# The top and the bottom of the screen

* `headerLine`    where the browser is, and the totals of what is shown;
* `bottomLine`    the open input line, the last error, or the keys of the level.
-/

namespace MailBrowser
namespace Browser
open Text

def spinnerFrames : List Char := ['⠋', '⠙', '⠹', '⠸', '⠼', '⠴', '⠦', '⠧', '⠇', '⠏']

/-- the spinner after some ticks -/
def spinner (ticks : Nat) : String :=
  .ofList [(spinnerFrames[ticks % spinnerFrames.length]?).getD ' ']

def colourSpan (c : Colour) (text : String) : Canvas.Span := ⟨text, .ofColour c⟩

/-! ## the top -/

def accountText (b : Browser) : String :=
  match b.account.bind fun id => b.accounts.find? fun a => a.id == id with
  | some a => a.identifier
  | none => "All accounts"

def statsText (s : Stats) : String :=
  "  " ++ decimal s.messages ++ " msgs | " ++ sizeText s.size ++ " | " ++ decimal s.attachments ++
    " attachments (" ++ sizeText s.attachmentSize ++ ")"

/-- The totals of the view come before those of the archive. -/
def headerLine (b : Browser) : List Canvas.Span :=
  [⟨" " ++ b.path ++ " ", { bold := true }⟩, colourSpan .cyan ("[" ++ b.accountText ++ "]")] ++
  (if b.attachmentsOnly then [colourSpan .magenta " [attachments]"] else []) ++
  ((b.view.totals <|> b.stats).toList.map fun s => colourSpan .darkGray (statsText s)) ++
  if b.selection.isEmpty then []
  else [colourSpan .yellow ("  " ++ decimal b.selection.size ++ " selected")]

/-! ## the bottom -/

/-- a slash, the input, a bar -/
def inputSpans (input : String) : List Canvas.Span :=
  [colourSpan .yellow "/", ⟨input, .plain⟩, colourSpan .yellow "▏"]

def searchSpans (b : Browser) (ticks : Nat) : List Canvas.Span :=
  inputSpans b.search.input ++
  (if b.view.level = .list then
    [colourSpan .darkGray ("  [" ++ b.search.mode.label ++ "] Tab: mode")] else []) ++
  if b.search.loading then [colourSpan .cyan (" " ++ spinner ticks)] else []

def hitText (f : Find) : String :=
  if f.hits.isEmpty then "[no matches]"
  else "[" ++ decimal (f.hit + 1 : Nat) ++ "/" ++ decimal f.hits.length ++ "]"

def keysText : Level → String
  | .groups =>
    "j/k: move | Enter: drill | a: all | Tab: group | t: time | s/r: sort | /: search | " ++
      "Space/S: select | d: stage | A: account | f: filter | ?: help"
  | .subgroups =>
    "j/k: move | Enter: drill | Tab: group | t: time | s/r: sort | /: search | " ++
      "Space/S: select | d: stage | Esc: back"
  | .list =>
    "j/k: move | Enter: open | T: thread | Tab: sub-group | s/r: sort | /: search | " ++
      "Space/S: select | d: stage | Esc: back"
  | .reading =>
    "j/k: scroll | g/G: top/bottom | ←/→: prev/next | /: find | T: thread | e: export | Esc: back"
  | .thread => "j/k: move | Enter: open | Esc: back"

/-- the first line of a text -/
def firstLine (s : String) : String := (lines s).headD ""

/-- the line about a search in the message on screen, if there is one -/
def findSpans? (b : Browser) : Option (Style × List Canvas.Span) :=
  let f := b.view.find
  if b.view.level = .reading then
    match f.input with
    | some input => some (.plain, inputSpans input)
    | none =>
      if f.text.isEmpty then none
      else
        let line := "/" ++ f.text ++ " " ++ hitText f ++ "  n/N: next/prev | Esc: clear"
        some (.ofColour .yellow, [⟨firstLine line, .plain⟩])
  else none

/-- the style of the whole line, and its parts -/
def bottomLine (b : Browser) (ticks : Nat) : Style × List Canvas.Span :=
  if b.search.active then (.plain, b.searchSpans ticks)
  else match b.findSpans? with
    | some line => line
    | none =>
      match b.error with
      | some e => (.ofColour .red, [⟨firstLine ("⚠ " ++ e), .plain⟩])
      | none => (.ofColour .darkGray, [⟨keysText b.view.level, .plain⟩])

def drawHeader (b : Browser) (c : Canvas) (a : Area) : Canvas := c.lay a [b.headerLine]

def drawBottom (b : Browser) (c : Canvas) (a : Area) (ticks : Nat) : Canvas :=
  let (style, spans) := b.bottomLine ticks
  (c.paint a style).lay a [spans]

end Browser
end MailBrowser
