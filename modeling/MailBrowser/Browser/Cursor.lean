import MailBrowser.Browser.SearchLine

/-!
# Cursors

* `moveCursor`      the cursor of a list moved, or the message on screen scrolled;
* `toStart`, `toEnd`   the first and the last row, or line;
* `pageDown`        a page on, and a page more of a deep search at its last result;
* `openFind`, `pressInFind`, `stepHit`   looking for a text in the message on screen.
-/

namespace MailBrowser
namespace Browser
open Text

def withView (b : Browser) (view : View) : Browser := { b with view }

/-- the message on screen scrolled, with a notice if it is at its end already -/
def scrollReading (b : Browser) (delta : Int) : Step :=
  let scroll := min b.view.readingScroll b.maxReadingScroll
  if delta < 0 ∧ scroll = 0 then
    b.withView { b.view with readingScroll := scroll } |>.notify "At top"
  else if 0 < delta ∧ b.maxReadingScroll ≤ scroll then
    b.withView { b.view with readingScroll := scroll } |>.notify "At bottom"
  else
    (b.withView { b.view with readingScroll := stepIn scroll delta (b.maxReadingScroll + 1) }, [])

def moveCursor (b : Browser) (delta : Int) : Step :=
  match b.view.level with
  | .reading => b.scrollReading delta
  | .thread =>
    let row := stepIn b.view.threadWindow.cursor delta b.view.data.thread.length
    (b.withView (b.view.moveToInThread row b.pageSize), [])
  | _ =>
    let row := stepIn b.view.window.cursor delta b.view.listLength
    b.withView (b.view.moveTo row b.pageSize) |>.loadMore

def toStart (b : Browser) : Step :=
  match b.view.level with
  | .reading => (b.withView { b.view with readingScroll := 0 }, [])
  | .thread => (b.withView (b.view.moveToInThread 0 b.pageSize), [])
  | _ => (b.withView (b.view.moveTo 0 b.pageSize), [])

def toEnd (b : Browser) : Step :=
  match b.view.level with
  | .reading => (b.withView { b.view with readingScroll := b.maxReadingScroll }, [])
  | .thread =>
    (b.withView (b.view.moveToInThread (b.view.data.thread.length - 1) b.pageSize), [])
  | _ => b.withView (b.view.moveTo (b.view.listLength - 1) b.pageSize) |>.loadMore

def pageDown (b : Browser) (rows : Nat) : Step :=
  if b.view.level = .list ∧ b.view.listLength ≤ b.view.window.cursor + 1 then b.loadMoreDeep
  else
    let (b, effects) := b.moveCursor rows
    if effects.isEmpty then b.loadMoreDeep else (b, effects)

/-! ## finding in a message -/

/-- the input line, with the text that was looked for last -/
def openFind (b : Browser) : Browser :=
  b.withView { b.view with find := { b.view.find with input := some b.view.find.text } }

/-- the numbers of the lines of a message that hold a text in lower case -/
def linesWith (d : Option Detail) (needle : String) : List Nat :=
  match d with
  | none => []
  | some d => (d.lines.zipIdx.filter fun l => mentions l.1 needle).map Prod.snd

/-- the message scrolled to the hit to look at -/
def showHit (b : Browser) : Browser :=
  match b.view.find.line? with
  | none => b
  | some line => b.withView { b.view with readingScroll := min line b.maxReadingScroll }

def commitFind (b : Browser) : Browser :=
  let text := trim (b.view.find.input.getD "")
  let hits := if text.isEmpty then [] else linesWith b.view.data.detail (lower text)
  (b.withView { b.view with find := { text, hits } }).showHit

/-- to the next hit or the one before, around the ends -/
def stepHit (b : Browser) (forward : Bool) : Browser :=
  let f := b.view.find
  let n := f.hits.length
  if f.text.isEmpty ∨ n = 0 then b
  else
    let here := min f.hit (n - 1)
    let hit := if forward then (here + 1) % n else (here + n - 1) % n
    (b.withView { b.view with find := { f with hit } }).showHit

def withFindInput (b : Browser) (input : Option String) : Browser :=
  b.withView { b.view with find := { b.view.find with input } }

/-- a key while the input line, which holds `input`, is open -/
def pressInFind (b : Browser) (input : String) (k : Key) : Browser :=
  match k with
  | .enter => b.commitFind
  | .escape => b.withFindInput none
  | .backspace => b.withFindInput (some (dropLast input))
  | .char c => b.withFindInput (some (input.push c))
  | _ => b

end Browser
end MailBrowser
