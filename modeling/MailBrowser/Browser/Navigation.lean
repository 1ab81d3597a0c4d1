import MailBrowser.Browser.Loads

/-!
# Navigation

From view to view.  Each way down leaves a crumb, and going back takes one up.

* `drill`, `showAll`          from rows to messages;
* `groupBy`, `groupByTime`    from messages to rows within the drill;
* `openMessage`, `openThread` to a message, to its thread;
* `goBack`                    to the last crumb, loaded again if what it held was not complete;
* `goToTop`, `selectAccount`  to the rows of the whole archive, without a way back;
* `turnDimension`, `pressTime`, `nextSort`, `flipSort`   other rows, another order.
-/

namespace MailBrowser
namespace Browser

/-- a crumb of the view on screen -/
def leaveCrumb (b : Browser) : Browser :=
  let reusable := !b.loading && !b.search.loading
  { b with crumbs := .leave b.view reusable b.search.mode b.search.total :: b.crumbs }

/-! ## down -/

/-- the message list of a view, empty until it is loaded -/
def enterList (b : Browser) : Browser :=
  { b with
    view := { b.view with
      level := .list
      window := {}
      data := { b.view.data with messages := [] }
      query := "" }
    search := b.search.restart
    error := none }

/-- the filter that a drill starts from -/
def drillBase (b : Browser) : Filter :=
  if b.view.level = .groups then b.scopeFilter else b.view.filter

/-- Into a row.  Marks at the top are for the top alone. -/
def drill (b : Browser) : Step :=
  match b.view.row? with
  | none => (b, [])
  | some row =>
    let v := { b.view with
      filter := b.drillBase.apply b.view.dimension row.key b.view.granularity
      origin := some b.view.dimension
      drillKey := row.key
      allMessages := false
      totals := some (.ofRow row) }
    let selection := if b.view.level = .groups then b.selection.clear else b.selection
    { b.leaveCrumb with selection, view := v }.enterList.loadMessages

/-- To the messages of all rows; a search goes along. -/
def showAll (b : Browser) : Step :=
  let query := b.view.query
  let v :=
    if b.view.level = .groups then
      { b.view with filter := b.scopeFilter, origin := none, allMessages := true, totals := none }
    else b.view
  let b := { b.leaveCrumb with view := { v with drillKey := "" } }.enterList
  if query.isEmpty then b.loadMessages
  else { b with view := { b.view with query } }.searchFrom 0 false

/-- rows within the drill -/
def groupWithin (b : Browser) (d : Dimension) : Step :=
  { b.leaveCrumb with
    view := { b.view with
      level := .subgroups
      dimension := d
      window := {}
      data := { b.view.data with rows := [] }
      query := "" }
    search := b.search.restart
    selection := b.selection.retag d
    error := none }.loadRows

def groupBy (b : Browser) : Step := b.groupWithin (b.view.origin.getD b.view.dimension).refine

/-- Only within a drill, and not within a period. -/
def groupByTime (b : Browser) : Step :=
  if b.view.filter.isConstrained && b.view.origin != some .time then b.groupWithin .time
  else (b, [])

/-- the reading view of a message that is to be loaded -/
def awaitMessage (b : Browser) (subject : String) : Browser :=
  { b with
    view := { b.view.clearFind with
      readingScroll := 0
      data := { b.view.data with detail := none }
      pendingSubject := subject }
    readingLines := 0 }

/-- to the message under the cursor of the list or of the thread -/
def openMessage (b : Browser) (fromThread : Bool) : Step :=
  let index := if fromThread then b.view.threadWindow.cursor else b.view.window.cursor
  match if fromThread then b.view.threadMessage? else b.view.message? with
  | none => (b, [])
  | some m =>
    { b.leaveCrumb with
      view := { b.view with
        level := .reading
        readingIndex := index
        readingFromThread := fromThread } }.awaitMessage m.subject |>.loadDetail m.id

/-- the cursor of the list behind a message, on the message -/
def followReading (v : View) (index page : Nat) : View :=
  if v.readingFromThread then v.moveToInThread index page else v.moveTo index page

/-- to the message that stands `delta` places further in the list -/
def turnMessage (b : Browser) (delta : Int) : Step :=
  let list := b.view.readingList
  if list.isEmpty then b.notify "No messages loaded"
  else
    let here := min b.view.readingIndex (list.length - 1)
    let b := { b with view := { b.view with readingIndex := here } }
    let target := (here : Int) + delta
    if target < 0 then b.notify "At first message"
    else match list[target.toNat]? with
      | none => b.notify "At last message"
      | some m =>
        let v := { b.view with readingIndex := target.toNat }
        { b with view := followReading v target.toNat b.pageSize }.awaitMessage m.subject
          |>.loadDetail m.id

/-- the conversation of the message on screen or under the cursor -/
def conversation? (b : Browser) : Option Int :=
  match b.view.level with
  | .list => b.view.message?.map Summary.conversation
  | .reading => b.view.data.detail.map Detail.conversation
  | _ => none

def openThread (b : Browser) : Step :=
  match b.conversation?.filter fun c => decide (0 < c) with
  | none => b.notify "No thread for this message"
  | some conversation =>
    { b.leaveCrumb with
      view := { b.view with
        level := .thread
        conversation
        threadWindow := {}
        threadCut := false
        data := { b.view.data with thread := [] } } }.loadThread

/-! ## back -/

/-- the cursor of the view behind a message, on the message that was read last -/
def resumeAfter (left v : View) (page : Nat) : View :=
  match left.level, v.level, left.readingFromThread with
  | .reading, .thread, true => v.moveToInThread left.readingIndex page
  | .reading, .list, false => v.moveTo left.readingIndex page
  | _, _, _ => v

/-- the search as a crumb has it -/
def resumeSearch (s : SearchSession) (v : View) (c : Crumb) : SearchSession :=
  { s.close with
    offset := v.data.messages.length
    total := c.searchTotal
    mode := if v.query.isEmpty then s.mode else c.searchMode }

/-- Marked rows stay marked where their dimension is on screen. -/
def retagFor (s : Selection) (v : View) : Selection :=
  if v.level.isGrouped && s.dimension != v.dimension then s.retag v.dimension else s

def goBack (b : Browser) : Step :=
  match b.crumbs with
  | [] => (b, [])
  | c :: rest =>
    let view := resumeAfter b.view c.restore b.pageSize
    let b := { b with
      view
      crumbs := rest
      error := none
      loading := false
      search := resumeSearch b.search view c
      selection := retagFor b.selection view }
    if c.isKept then (b, []) else b.reload

/-! ## to the top -/

/-- the rows of the whole archive, in the order that was chosen -/
def resetTo (b : Browser) (d : Dimension) : Browser :=
  let v := b.view
  { b with
    crumbs := []
    view := {
      dimension := d
      filter := b.scopeFilter
      rowField := v.rowField
      rowDirection := v.rowDirection
      messageField := v.messageField
      messageDirection := v.messageDirection
      granularity := v.granularity }
    search := b.search.restart
    selection := b.selection.clear.retag d
    error := none }

def goToTop (b : Browser) : Step := (b.resetTo b.topDimension).loadRows

/-- the choice of the account dialog: 0 for all accounts, then the accounts -/
def selectAccount (b : Browser) (choice : Nat) : Step :=
  let account :=
    match choice with
    | 0 => none
    | n + 1 => b.accounts[n]?.map Account.id
  let (b, effects) := ({ b with account }.resetTo b.topDimension).loadRows
  (b, effects ++ [b.statsEffect])

def setAttachmentsOnly (b : Browser) (only : Bool) : Step :=
  let filter := { b.view.filter with attachmentsOnly := only }
  let (b, effects) := { b with attachmentsOnly := only, view := { b.view with filter } }.reload
  (b, if b.view.level = .groups then effects ++ [b.statsEffect] else effects)

/-! ## other rows -/

def switchDimension (b : Browser) (d : Dimension) : Step :=
  { b with
    view := { b.view with
      dimension := d
      window := {}
      data := { b.view.data with rows := [] } }
    selection := b.selection.retag d }.loadRows

/-- Within a drill, the ring is walked without the dimension of the drill. -/
def turnDimension (b : Browser) (forward : Bool) : Step :=
  let skip := if b.view.level = .subgroups then b.view.origin else none
  b.switchDimension (b.view.dimension.cycle forward skip)

/-- To periods, and from one size of them to the next; within a period there are no others. -/
def pressTime (b : Browser) : Step :=
  if b.view.dimension = .time then
    { b with view := { b.view with granularity := b.view.granularity.next } }.loadRows
  else if b.view.level = .subgroups ∧ b.view.origin = some .time then (b, [])
  else b.switchDimension .time

def nextSort (b : Browser) : Step :=
  match b.view.level with
  | .groups | .subgroups =>
    { b with view := { b.view with rowField := b.view.rowField.next } }.loadRows
  | .list => { b with view := { b.view with messageField := b.view.messageField.next } }.reload
  | _ => (b, [])

def flipSort (b : Browser) : Step :=
  match b.view.level with
  | .groups | .subgroups =>
    { b with view := { b.view with rowDirection := b.view.rowDirection.flip } }.loadRows
  | .list =>
    { b with view := { b.view with messageDirection := b.view.messageDirection.flip } }.reload
  | _ => (b, [])

end Browser
end MailBrowser
