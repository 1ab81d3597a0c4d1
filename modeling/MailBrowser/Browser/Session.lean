import MailBrowser.Browser.Effect
import MailBrowser.Deletion.Shelf

/-!
# Sessions

What effects do.  A session has the engine that answers questions, and the files that batches and
exports are written to.

* `runSearch`         one page of a search, with the total as far as it is known;
* `Session.perform`   an effect: the session after it, and the event that reports its outcome.

Timers report at once here; who runs them for real waits before.
-/

namespace MailBrowser

/-- A fast search knows its total.  A deep one knows it only from a page that is not full. -/
def runSearch (e : Engine) (r : SearchRequest) : Answer SearchPage :=
  match r.mode with
  | .fast => do
    let messages ← e.searchFast r.query r.filter r.limit r.offset
    let total ← e.countFast r.query r.filter
    .ok { messages, total }
  | .deep => do
    let messages ← e.search r.query r.limit r.offset
    .ok {
      messages
      total := if r.limit ≤ messages.length then -1 else (r.offset + messages.length : Nat) }

structure Session where
  engine : Engine
  files : FileStore
  /-- holds batches and the content of attachments -/
  dataDir : Path
  exportDir : Path

namespace Session

def shelf (s : Session) : Path := Path.join s.dataDir "deletions"

def blobs (s : Session) : Path := Path.join s.dataDir "attachments"

def save (s : Session) (m : Manifest) : Session × Event :=
  match saveManifest s.files s.shelf m with
  | .ok (files, _) => ({ s with files }, .manifestSaved (.ok (m.id, m.count)))
  | .error e => (s, .manifestSaved (.error e))

def exportTo (s : Session) (dir : Path) (as : List Attachment) : Session × Event :=
  let (files, result) := Export.exportAll s.files s.blobs dir as
  ({ s with files }, .exportFinished result)

/-- The end of the program reports nothing. -/
def perform (s : Session) (now : Instant) : Effect → Session × Option Event
  | .loadRows id d none o => (s, some (.rowsLoaded id (s.engine.group d o)))
  | .loadRows id d (some f) o => (s, some (.rowsLoaded id (s.engine.groupWithin f d o)))
  | .loadMessages id f o => (s, some (.messagesLoaded id (s.engine.list f o)))
  | .loadThread id f o => (s, some (.threadLoaded id (s.engine.list f o)))
  | .loadDetail id m => (s, some (.detailLoaded id (s.engine.detail m)))
  | .search id r => (s, some (.searchLoaded id r.append (runSearch s.engine r)))
  | .searchTick _ query token => (s, some (.searchTick query token))
  | .loadStats o => (s, some (.statsLoaded (s.engine.stats o)))
  | .loadAccounts => (s, some (.accountsLoaded s.engine.accounts))
  | .expireFlash _ generation => (s, some (.flashExpired generation))
  | .buildManifest r => (s, some (.manifestBuilt (stage s.engine r now)))
  | .saveManifest m => (s.save m).map id some
  | .exportAttachments subject m as =>
    (s.exportTo (Path.join s.exportDir (Export.folderName subject m)) as).map id some
  | .quit => (s, none)

end Session
end MailBrowser
