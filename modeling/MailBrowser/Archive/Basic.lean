import MailBrowser.Archive.Find
import MailBrowser.Archive.Keys
import MailBrowser.Json.Decode
import MailBrowser.Mail.Conversation
import MailBrowser.Mail.Stored

/-!
# Archives

* `ArchiveFile`        accounts and messages as a file holds them;
* `Archive`            the same, threaded and in the order of display: newest first, equal times
                       by ascending number;
* `Archive.selected`   the messages of a scope that pass a filter.
-/

namespace MailBrowser

structure ArchiveFile where
  accounts : List Account := []
  messages : List Message
deriving Inhabited

structure Archive where
  accounts : List Account
  messages : List Message
deriving Inhabited

def ArchiveFile.ofJson? (v : Json) : Option ArchiveFile :=
  match v.slots? ["accounts", "messages"] with
  | some [accounts, messages] => do
    let accounts ← Json.orElse [] (Json.toList? Account.ofJson?) accounts
    let messages ← Json.need (Json.toList? Message.ofJson?) messages
    some { accounts, messages }
  | _ => none

def ArchiveFile.read? (text : String) : Option ArchiveFile :=
  (Json.read? text).bind ArchiveFile.ofJson?

/-- the order of display -/
def Message.displayedBefore (a b : Message) : Bool :=
  b.sentAt.before a.sentAt || (a.sentAt == b.sentAt && decide (a.id ≤ b.id))

namespace Archive

def ofFile (f : ArchiveFile) : Archive where
  accounts := f.accounts
  messages := (Conversation.assign f.messages).mergeSort Message.displayedBefore

/-- the messages of a scope -/
def inScope (a : Archive) (account : Option Int) (attachmentsOnly : Bool) : List Message :=
  a.messages.filter fun m => m.inScope account attachmentsOnly

/-- the messages of the scope of a filter that pass it -/
def selected (a : Archive) (f : Filter) : List Message :=
  (a.inScope f.account f.attachmentsOnly).filter fun m => m.passes f

end Archive

/-- a slice: `limit` members from `offset` on, 0 for all of them -/
def page {α : Type} (xs : List α) (limit offset : Nat) : List α :=
  if limit = 0 then xs.drop offset else (xs.drop offset).take limit

end MailBrowser
