import MailBrowser.Browser.Loads

/-!
# Arrivals

What becomes of the outcome of a request.  An outcome is dropped if its number is not the last of
its kind, or if the screen shows another level by now.

* `rowsArrived`, `messagesArrived`, `threadArrived`, `detailArrived`, `searchArrived`
  the outcomes of numbered requests;
* `statsArrived`, `accountsArrived`   the outcomes of the others.
-/

namespace MailBrowser
namespace Browser

def withError (b : Browser) (e : QueryError) : Browser := { b with error := some e.message }

/-- The totals of rows are shown while a search holds, and without one the totals of the drill. -/
def rowTotals (v : View) (rows : List Row) : Option Stats :=
  if !v.query.isEmpty then some (.sumRows rows)
  else if v.level = .groups then none
  else v.totals

def showRows (v : View) (rows : List Row) (page : Nat) : View :=
  { v with totals := rowTotals v rows, data := { v.data with rows } }.clampCursor page

def rowsArrived (b : Browser) (id : Nat) (result : Answer (List Row)) : Browser :=
  if b.ledger.isCurrent .rows id && b.view.level.isGrouped then
    let b := { b with loading := false }
    match result with
    | .ok rows => { b with error := none, view := showRows b.view rows b.pageSize }
    | .error e => b.withError e
  else b

/-- A list that arrives while a search holds is not what is wanted any more. -/
def messagesArrived (b : Browser) (id : Nat) (result : Answer (List Summary)) : Browser :=
  if b.ledger.isCurrent .messages id && b.view.level = .list then
    let b := { b with loading := false }
    if !b.view.query.isEmpty then b
    else match result with
      | .ok messages =>
        let v := { b.view with data := { b.view.data with messages } }
        { b with error := none, view := v.clampCursor b.pageSize }
      | .error e => b.withError e
  else b

def showThread (v : View) (messages : List Summary) (limit page : Nat) : View :=
  let thread := messages.take limit
  { v with
    threadCut := decide (limit < messages.length)
    data := { v.data with thread } }.moveToInThread
      (min v.threadWindow.cursor (thread.length - 1)) page

def threadArrived (b : Browser) (id : Nat) (result : Answer (List Summary)) : Browser :=
  if b.ledger.isCurrent .messages id && b.view.level = .thread then
    let b := { b with loading := false }
    match result with
    | .ok messages =>
      { b with error := none, view := showThread b.view messages b.tuning.threadLimit b.pageSize }
    | .error e => b.withError e
  else b

def detailArrived (b : Browser) (id : Nat) (result : Answer (Option Detail)) : Browser :=
  if b.ledger.isCurrent .detail id && b.view.level = .reading then
    let b := { b with loading := false }
    match result with
    | .ok (some d) =>
      { b with
        error := none
        readingLines := d.lines.length
        view := { b.view with data := { b.view.data with detail := some d } } }
    | .ok none => { b with error := some "Message not found" }
    | .error e => b.withError e
  else b

/-! ## pages of a search -/

/-- The count of the results takes the place of the count in the totals of the drill, if they
have more than a count. -/
def searchTotals (totals : Option Stats) (count : Int) : Stats :=
  match totals with
  | some s =>
    if 0 < count ∧ (0 < s.size ∨ 0 < s.attachments) then { s with messages := count }
    else { messages := count }
  | none => { messages := count }

/-- the view with a page of results, after the ones it has or in their place -/
def showPage (v : View) (page : SearchPage) (append : Bool) : View :=
  let messages := if append then v.data.messages ++ page.messages else page.messages
  { v with
    data := { v.data with messages }
    window := if append then v.window else {}
    totals := some (searchTotals v.totals (max page.total messages.length)) }

def searchArrived (b : Browser) (id : Nat) (append : Bool) (result : Answer SearchPage) : Browser :=
  if b.ledger.isCurrent .search id && b.view.level = .list && !b.view.query.isEmpty then
    let b := { b with search := { b.search with loading := false, loadingMore := false } }
    match result with
    | .error e => b.withError e
    | .ok page =>
      let view := showPage b.view page append
      { b with
        error := none
        view
        search := { b.search with offset := view.data.messages.length, total := page.total } }
  else b

/-! ## requests without a number -/

def statsArrived (b : Browser) (result : Answer Stats) : Browser :=
  match result with
  | .ok stats => { b with stats := some stats }
  | .error _ => b

def accountsArrived (b : Browser) (result : Answer (List Account)) : Browser :=
  match result with
  | .ok accounts => { b with accounts }
  | .error e => b.withError e

end Browser
end MailBrowser
