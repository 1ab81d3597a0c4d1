import MailBrowser.Browser.Cursor
import MailBrowser.Browser.Marking
import MailBrowser.Browser.Navigation

/-!
# What keys do

A key goes to the first that takes it: control-c quits always; work in progress swallows the
others; then come the dialog, the search line, the find line, the cursor keys of every level, and
the keys of the level on screen.

* `Browser.press`   the transition of a key.
-/

namespace MailBrowser
namespace Browser

/-- a transition that asks for nothing -/
def still (b : Browser) : Step := (b, [])

def quit (b : Browser) : Step := ({ b with quitting := true }, [.quit])

def openDialog (b : Browser) (d : Dialog) : Step := ({ b with dialog := some d }, [])

/-! ## dialogs -/

def isYes (k : Key) : Bool := k = .char 'y' || k = .char 'Y'

def isNo (k : Key) : Bool := k = .char 'n' || k = .char 'N' || k = .escape

/-- the number of attachments to choose from -/
def attachmentCount (b : Browser) : Nat :=
  (b.view.data.detail.map fun d => d.attachments.length).getD 0

def pressInAttachments (b : Browser) (cursor : Nat) (chosen : OrdSet Nat) (k : Key) : Step :=
  match k with
  | .enter => b.exportChosen chosen
  | .escape => b.still
  | .char ' ' => b.openDialog (.attachments cursor (chosen.toggle cursor))
  | .char 'a' => b.openDialog (.attachments cursor (.ofList (List.range b.attachmentCount)))
  | .char 'n' => b.openDialog (.attachments cursor .empty)
  | _ => b.openDialog (.attachments (moveInChoices cursor k b.attachmentCount) chosen)

/-- a key to a dialog, which closes unless it is opened again -/
def pressInDialog (b : Browser) (d : Dialog) (k : Key) : Step :=
  let b := { b with dialog := none }
  match d with
  | .help => b.still
  | .quit => if isYes k then b.quit else b.still
  | .deletion staged =>
    if isYes k then
      ({ b with busy := some "Saving manifest..." }, [.saveManifest staged.manifest])
    else if isNo k then b.still
    else b.openDialog d
  | .account cursor =>
    match k with
    | .enter => b.selectAccount cursor
    | .escape => b.still
    | _ => b.openDialog (.account (moveInChoices cursor k (b.accounts.length + 1)))
  | .attachmentScope cursor =>
    match k with
    | .enter => b.setAttachmentsOnly (cursor == 1)
    | .escape => b.still
    | _ => b.openDialog (.attachmentScope (moveInChoices cursor k 2))
  | .attachments cursor chosen => b.pressInAttachments cursor chosen k

/-! ## cursor keys -/

def pressInMotion? (b : Browser) (k : Key) : Option Step :=
  match k with
  | .char 'j' | .down => some (b.moveCursor 1)
  | .char 'k' | .up => some (b.moveCursor (-1))
  | .pageDown => some (b.pageDown (b.pageRows false))
  | .ctrl 'd' => some (b.pageDown (b.pageRows true))
  | .pageUp => some (b.moveCursor (-(b.pageRows false : Int)))
  | .ctrl 'u' => some (b.moveCursor (-(b.pageRows true : Int)))
  | .homeKey => some b.toStart
  | .endKey => some b.toEnd
  | _ => none

/-! ## the levels -/

/-- the place of the account that is looked at in the account dialog -/
def accountChoice (b : Browser) : Nat :=
  match b.account.bind fun id => b.accounts.findIdx? fun a => a.id == id with
  | some i => i + 1
  | none => 0

/-- marks, scope and dialogs, for rows and for messages -/
def pressInEither (b : Browser) (k : Key) : Step :=
  match k with
  | .char ' ' => b.toggleMark.still
  | .char 'S' => b.markVisible.still
  | .char 'x' => { b with selection := b.selection.clear }.still
  | .char 'd' => b.stageMarked false
  | .char 'D' => b.stageMarked true
  | .char 'A' => b.openDialog (.account b.accountChoice)
  | .char 'f' => b.openDialog (.attachmentScope (if b.attachmentsOnly then 1 else 0))
  | .char '?' => b.openDialog .help
  | .char 'q' => b.openDialog .quit
  | _ => b.still

def pressInGroups (b : Browser) (k : Key) : Step :=
  match k with
  | .enter => b.drill
  | .escape =>
    if b.view.level = .subgroups then b.goBack
    else if b.view.query.isEmpty then b.still
    else b.cancelSearch
  | .char 'a' => b.showAll
  | .tab | .char 'g' => b.turnDimension true
  | .backTab => b.turnDimension false
  | .char 't' => b.pressTime
  | .char 's' => b.nextSort
  | .char 'r' | .char 'v' => b.flipSort
  | .char '/' => b.openSearch
  | _ => b.pressInEither k

def pressInList (b : Browser) (k : Key) : Step :=
  match k with
  | .enter => b.openMessage false
  | .escape => if b.view.query.isEmpty then b.goBack else b.cancelSearch
  | .tab => if b.view.filter.isConstrained then b.groupBy else b.still
  | .char 'g' => if b.view.filter.isConstrained then b.groupBy else b.goToTop
  | .char 't' => b.groupByTime
  | .char 'T' => b.openThread
  | .char 's' => b.nextSort
  | .char 'r' | .char 'v' => b.flipSort
  | .char '/' => b.openSearch
  | _ => b.pressInEither k

/-- A text that was looked for is dropped before the message is left. -/
def pressInReading (b : Browser) (k : Key) : Step :=
  match k with
  | .left | .char 'h' => b.turnMessage (-1)
  | .right | .char 'l' => b.turnMessage 1
  | .char 'g' => b.toStart
  | .char 'G' => b.toEnd
  | .char '/' => b.openFind.still
  | .char 'n' => (b.stepHit true).still
  | .char 'N' => (b.stepHit false).still
  | .escape =>
    if b.view.find.text.isEmpty then b.goBack else { b with view := b.view.clearFind }.still
  | .backspace => b.goBack
  | .char 'T' => b.openThread
  | .char 'e' => b.openExport
  | .char '?' => b.openDialog .help
  | .char 'q' => b.openDialog .quit
  | _ => b.still

def pressInThread (b : Browser) (k : Key) : Step :=
  match k with
  | .enter => b.openMessage true
  | .escape | .backspace => b.goBack
  | .char '?' => b.openDialog .help
  | .char 'q' => b.openDialog .quit
  | _ => b.still

def pressInLevel (b : Browser) (k : Key) : Step :=
  match b.view.level with
  | .groups | .subgroups => b.pressInGroups k
  | .list => b.pressInList k
  | .reading => b.pressInReading k
  | .thread => b.pressInThread k

/-- a key to the screen itself, past dialogs and input lines -/
def pressOnScreen (b : Browser) (k : Key) : Step :=
  match b.pressInMotion? k with
  | some step => step
  | none => b.pressInLevel k

def press (b : Browser) (k : Key) : Step :=
  if k = .ctrl 'c' then b.quit
  else if b.busy.isSome then b.still
  else match b.dialog with
    | some d => b.pressInDialog d k
    | none =>
      if b.search.active then b.pressInSearch k
      else match b.view.find.input with
        | some input => (b.pressInFind input k).still
        | none => b.pressOnScreen k

end Browser
end MailBrowser
