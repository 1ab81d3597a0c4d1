import MailBrowser.Browser.Basic

/-!
# Loads

The requests for what a view shows.  Each is numbered by the ledger, and sets the mark that
something is being loaded.

* `loadRows`, `loadMessages`, `loadThread`, `loadDetail`, `searchFrom`   one request each;
* `reload`          whatever the level shows;
* `statsEffect`     the totals of the scope.
-/

namespace MailBrowser
namespace Browser

def statsEffect (b : Browser) : Effect :=
  .loadStats { account := b.account, attachmentsOnly := b.attachmentsOnly }

def groupOptions (b : Browser) : GroupOptions where
  account := b.account
  sortField := b.view.rowField
  direction := b.view.rowDirection
  limit := b.tuning.groupLimit
  granularity := b.view.granularity
  attachmentsOnly := b.attachmentsOnly
  search := if b.view.query.isEmpty then none else some b.view.query

/-- a filter that only keeps to the scope -/
def scopeFilter (b : Browser) : Filter := .inScope b.account b.attachmentsOnly

/-- the drill filter, kept to the scope -/
def listFilter (b : Browser) : Filter :=
  { b.view.filter with account := b.account, attachmentsOnly := b.attachmentsOnly }

/-- the browser with a request of a kind given out, and its number -/
def issue (b : Browser) (k : LoadKind) : Browser × Nat :=
  ({ b with ledger := b.ledger.issue k }, (b.ledger.issue k).current k)

def loadRows (b : Browser) : Step :=
  let (b, id) := b.issue .rows
  let filter := if b.view.level = .subgroups then some b.view.filter else none
  ({ b with loading := true }, [.loadRows id b.view.dimension filter b.groupOptions])

def loadMessages (b : Browser) : Step :=
  let (b, id) := b.issue .messages
  ({ b with loading := true },
    [.loadMessages id b.listFilter
      { sortField := b.view.messageField, direction := b.view.messageDirection }])

/-- One message more than is shown tells whether the thread goes on. -/
def loadThread (b : Browser) : Step :=
  let (b, id) := b.issue .messages
  ({ b with loading := true },
    [.loadThread id (.inScope b.account false)
      { sortField := .date
        direction := .asc
        limit := b.tuning.threadLimit + 1
        conversation := some b.view.conversation }])

def loadDetail (b : Browser) (message : Int) : Step :=
  let (b, id) := b.issue .detail
  ({ b with loading := true }, [.loadDetail id message])

def searchRequest (b : Browser) (offset : Nat) (append : Bool) : SearchRequest where
  query := b.view.query
  mode := b.search.mode
  filter := b.listFilter
  limit := b.tuning.searchPageSize
  offset
  append

/-- a page of the search, from an offset on -/
def searchFrom (b : Browser) (offset : Nat) (append : Bool) : Step :=
  let (b, id) := b.issue .search
  let search :=
    if append then { b.search with loadingMore := true } else { b.search with loading := true }
  ({ b with search }, [.search id (b.searchRequest offset append)])

/-- the search from its first page on -/
def searchAfresh (b : Browser) : Step :=
  { b with search := b.search.forgetResults }.searchFrom 0 false

def reload (b : Browser) : Step :=
  match b.view.level with
  | .groups | .subgroups => b.loadRows
  | .list => if b.view.query.isEmpty then b.loadMessages else b.searchAfresh
  | .thread => b.loadThread
  | .reading =>
    match b.view.readingList[b.view.readingIndex]? with
    | some m => b.loadDetail m.id
    | none => (b, [])

/-- the first loads of a browser -/
def start (b : Browser) : Step :=
  let (next, effects) := b.loadRows
  (next, .loadAccounts :: b.statsEffect :: effects)

end Browser
end MailBrowser
