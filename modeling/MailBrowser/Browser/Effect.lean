import MailBrowser.Browser.Key
import MailBrowser.Browser.SearchSession
import MailBrowser.Deletion.Staging
import MailBrowser.Engine.Interface
import MailBrowser.Export.Copy

/-!
# Effects and events

* `Effect`    work that the browser asks for: questions to the engine, timers, files, the end;
* `Event`     what the browser reacts to: keys, the height of the screen, outcomes of work.

Requests carry the number that the ledger gave out for them, and their outcomes carry it back.
-/

namespace MailBrowser

inductive Effect where
  /-- the rows of the archive, or of what a filter selects -/
  | loadRows (id : Nat) (dimension : Dimension) (filter : Option Filter) (options : GroupOptions)
  | loadMessages (id : Nat) (filter : Filter) (options : ListOptions)
  | loadThread (id : Nat) (filter : Filter) (options : ListOptions)
  | loadDetail (id : Nat) (message : Int)
  | search (id : Nat) (request : SearchRequest)
  /-- a tick after a time in milliseconds -/
  | searchTick (delay : Nat) (query : String) (token : Nat)
  | loadStats (options : StatsOptions)
  | loadAccounts
  | expireFlash (delay : Nat) (generation : Nat)
  | buildManifest (request : StageRequest)
  | saveManifest (manifest : Manifest)
  | exportAttachments (subject : String) (message : Int) (attachments : List Attachment)
  | quit
deriving DecidableEq

inductive Event where
  | key (k : Key)
  | resize (height : Nat)
  | rowsLoaded (id : Nat) (result : Answer (List Row))
  | messagesLoaded (id : Nat) (result : Answer (List Summary))
  | threadLoaded (id : Nat) (result : Answer (List Summary))
  | detailLoaded (id : Nat) (result : Answer (Option Detail))
  | searchLoaded (id : Nat) (append : Bool) (result : Answer SearchPage)
  | searchTick (query : String) (token : Nat)
  | flashExpired (generation : Nat)
  | statsLoaded (result : Answer Stats)
  | accountsLoaded (result : Answer (List Account))
  | manifestBuilt (result : Except DeletionError StagedBatch)
  /-- the name of the batch and the number of its messages -/
  | manifestSaved (result : Except DeletionError (String × Nat))
  | exportFinished (result : Except ExportError ExportReport)

end MailBrowser
