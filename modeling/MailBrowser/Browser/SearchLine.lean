import MailBrowser.Browser.Loads
import MailBrowser.Text.Blank

/-!
# The search line

* `openSearch`       opens the line, and keeps the list as it was;
* `pressInSearch`    a key while the line is open;
* `ticked`           the search of what was typed, when a tick counts;
* `commitSearch`, `cancelSearch`   close the line, with or without its search;
* `loadMore`, `loadMoreDeep`       the next page of the results, as the cursor nears their end.
-/

namespace MailBrowser
namespace Browser
open Text

/-- the view with a query -/
def withQuery (b : Browser) (query : String) : Browser := { b with view := { b.view with query } }

def withSearch (b : Browser) (search : SearchSession) : Browser := { b with search }

/-- The list is kept unless it is itself the result of a search, or not there yet. -/
def openSearch (b : Browser) : Step :=
  if b.view.level.isGrouped || b.view.level = .list then
    let snapshot :=
      if b.view.level = .list && b.view.query.isEmpty && !b.loading then
        some { messages := b.view.data.messages
               cursor := b.view.window.cursor
               scroll := b.view.window.scroll
               totals := b.view.totals }
      else b.search.snapshot
    (b.withSearch { b.search with active := true, input := b.view.query, snapshot }, [])
  else (b, [])

/-! ## leaving a search -/

def showSnapshot (v : View) (s : ListSnapshot) : View :=
  { v with
    data := { v.data with messages := s.messages }
    window := ⟨s.cursor, s.scroll⟩
    totals := s.totals }

/-- The list without a search, as it was before if that is known. -/
def clearSearch (b : Browser) : Step :=
  let b := (b.withQuery "").withSearch b.search.forgetResults
  match b.search.snapshot with
  | some s => ({ b with view := showSnapshot b.view s }, [])
  | none => b.loadMessages

/-- rows without a search -/
def clearGroupSearch (b : Browser) : Step :=
  let b := b.withQuery ""
  let totals := if b.view.level = .groups then none else b.view.totals
  { b with view := { b.view with totals } }.loadRows

def cancelSearch (b : Browser) : Step :=
  let b := b.withSearch { b.search with active := false, input := "" }.bumpToken
  if b.view.level = .list && b.search.snapshot.isSome then
    let (b, effects) := b.clearSearch
    (b.withSearch { b.search with snapshot := none }, effects)
  else
    let b := b.withSearch { b.search with snapshot := none }.forgetResults
    if b.view.query.isEmpty then (b, [])
    else match b.view.level with
      | .list => (b.withQuery "").loadMessages
      | .groups | .subgroups => b.clearGroupSearch
      | _ => (b.withQuery "", [])

/-! ## searching -/

/-- a search for a text without outer blanks, perhaps empty -/
def applyQuery (b : Browser) (query : String) : Step :=
  let b := b.withQuery query
  match b.view.level with
  | .list => if query.isEmpty then b.clearSearch else b.searchAfresh
  | .groups | .subgroups =>
    let totals := if query.isEmpty ∧ b.view.level = .groups then none else b.view.totals
    let b := b.withSearch { b.search with loading := false }
    { b with view := { b.view with totals } }.loadRows
  | _ => (b, [])

def ticked (b : Browser) (query : String) (token : Nat) : Step :=
  if token = b.search.token then b.applyQuery (trim query) else (b, [])

/-- the line after a keystroke; the search waits for the tick -/
def typed (b : Browser) (input : String) : Step :=
  let b := b.withSearch
    { b.search with input, token := b.search.token + 1, loading := !(trim input).isEmpty }
  let delay :=
    match b.search.mode with
    | .fast => b.tuning.fastDebounce
    | .deep => b.tuning.deepDebounce
  (b, [.searchTick delay input b.search.token])

def toggleMode (b : Browser) : Step :=
  if b.view.level = .list then
    let b := b.withSearch { b.search with mode := b.search.mode.other }.bumpToken
    let query := trim b.search.input
    if query.isEmpty then (b, []) else (b.withQuery query).searchAfresh
  else (b, [])

def commitSearch (b : Browser) : Step :=
  let query := trim b.search.input
  if query.isEmpty then b.cancelSearch
  else
    let b := b.withSearch { b.search with active := false, snapshot := none }.bumpToken
    match b.view.level with
    | .list => (b.withQuery query).searchAfresh
    | .groups | .subgroups =>
      let b := b.withSearch { b.search with loading := false }
      if b.view.query = query then (b, []) else (b.withQuery query).loadRows
    | _ => (b, [])

/-- a text without its last character -/
def dropLast (s : String) : String := .ofList s.toList.dropLast

def pressInSearch (b : Browser) (k : Key) : Step :=
  match k with
  | .escape => b.cancelSearch
  | .enter => b.commitSearch
  | .tab => b.toggleMode
  | .backspace => b.typed (dropLast b.search.input)
  | .ctrl 'u' => b.typed ""
  | .char c => b.typed (b.search.input.push c)
  | _ => (b, [])

/-! ## more pages -/

/-- how near to the last result the cursor makes a fast search go on -/
def nearEnd : Nat := 20

/-- the results of a search in a mode are on screen, and no page more is on its way -/
def canLoadMore (b : Browser) (mode : SearchMode) : Bool :=
  b.view.level = .list && !b.view.query.isEmpty && b.search.mode = mode && !b.search.loadingMore

def loadMore (b : Browser) : Step :=
  let loaded := b.view.data.messages.length
  if b.canLoadMore .fast && !b.search.loading && decide ((loaded : Int) < b.search.total) &&
      decide (loaded ≤ b.view.window.cursor + nearEnd) then
    b.searchFrom b.search.offset true
  else (b, [])

/-- A deep search goes on only when a page is asked for at its last result. -/
def loadMoreDeep (b : Browser) : Step :=
  let loaded := b.view.data.messages.length
  if b.canLoadMore .deep && b.search.total = -1 && decide (0 < loaded) &&
      decide (loaded ≤ b.view.window.cursor + 1) then
    b.searchFrom b.search.offset true
  else (b, [])

end Browser
end MailBrowser
