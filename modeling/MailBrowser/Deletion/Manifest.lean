import MailBrowser.Calendar.Reading
import MailBrowser.Json.Decode
import MailBrowser.Json.Printer
import MailBrowser.Mail.Stored

/-!
# Deletion manifests

A manifest lists the messages of one batch to be deleted; another program carries it out later.

* `Manifest`          a batch: its messages, what they were chosen by, how far it has come;
* `Manifest.make`     a new pending batch, named by its time and description;
* `Manifest.toJson`, `Manifest.ofJson?`   the file form; empty criteria are left out;
* `Manifest.text`, `Manifest.read?`       the text of the file.
-/

namespace MailBrowser
open Json (put)
open Text

inductive BatchStatus where
  | pending | inProgress | completed | failed | cancelled
deriving DecidableEq, Repr, Inhabited

namespace BatchStatus

def all : List BatchStatus := [pending, inProgress, completed, failed, cancelled]

/-- the name in files and of the directory -/
def name : BatchStatus → String
  | pending => "pending"
  | inProgress => "in_progress"
  | completed => "completed"
  | failed => "failed"
  | cancelled => "cancelled"

def ofName? (s : String) : Option BatchStatus := all.find? fun b => b.name == s

end BatchStatus

/-- what the messages of a batch were chosen by -/
structure Criteria where
  senders : List String := []
  senderDomains : List String := []
  recipients : List String := []
  labels : List String := []
  after : Option String := none
  before : Option String := none
  account : Option String := none
deriving DecidableEq, Inhabited

structure Manifest where
  version : Int := 1
  id : String
  createdAt : Instant
  createdBy : String
  description : String
  criteria : Criteria
  providerIds : List String
  status : BatchStatus
deriving DecidableEq, Inhabited

/-! ## naming a batch -/

/-- a character of a batch name, `none` if it is left out -/
def batchChar? (c : Char) : Option Char :=
  if c.isAlphanum || c == '-' || c == '_' then some c
  else if c = ' ' ∨ c = '.' then some '-'
  else none

/-- the characters of a description that a batch name keeps -/
def batchNameLimit : Nat := 20

def batchSuffix (description : String) : String :=
  match (description.toList.filterMap batchChar?).take batchNameLimit with
  | [] => "batch"
  | cs => .ofList cs

def batchName (at_ : Instant) (description : String) : String :=
  at_.compact ++ "-" ++ batchSuffix description

namespace Manifest

def defaultCreator : String := "cli"

def make (description : String) (providerIds : List String) (criteria : Criteria)
    (createdBy : String) (createdAt : Instant) : Manifest where
  id := batchName createdAt description
  createdAt
  createdBy
  description
  criteria
  providerIds
  status := .pending

def count (m : Manifest) : Nat := m.providerIds.length

/-! ## file form -/

def listField (name : String) (ss : List String) : List (String × Json) :=
  if ss.isEmpty then [] else [put name ss]

def optionField (name : String) (s : Option String) : List (String × Json) :=
  s.toList.map fun s => put name s

end Manifest

def Criteria.toJson (c : Criteria) : Json :=
  .obj (Manifest.listField "senders" c.senders ++
    Manifest.listField "sender_domains" c.senderDomains ++
    Manifest.listField "recipients" c.recipients ++
    Manifest.listField "labels" c.labels ++
    Manifest.optionField "after" c.after ++
    Manifest.optionField "before" c.before ++
    Manifest.optionField "account" c.account)

def Criteria.ofJson? (v : Json) : Option Criteria :=
  match v.slots? ["senders", "sender_domains", "recipients", "labels", "after", "before",
      "account"] with
  | some [senders, senderDomains, recipients, labels, after, before, account] => do
    let senders ← Json.orElse [] (Json.toList? Json.toText?) senders
    let senderDomains ← Json.orElse [] (Json.toList? Json.toText?) senderDomains
    let recipients ← Json.orElse [] (Json.toList? Json.toText?) recipients
    let labels ← Json.orElse [] (Json.toList? Json.toText?) labels
    let after ← Json.orElse none (Json.toOption? Json.toText?) after
    let before ← Json.orElse none (Json.toOption? Json.toText?) before
    let account ← Json.orElse none (Json.toOption? Json.toText?) account
    some { senders, senderDomains, recipients, labels, after, before, account }
  | _ => none

/-- A status is its name, or a record with the name alone that holds nothing. -/
def BatchStatus.ofJson? : Json → Option BatchStatus
  | .str (some s) => ofName? s
  | .record [(some s, .null)] => ofName? s
  | _ => none

namespace Manifest

def toJson (m : Manifest) : Json :=
  .obj [
    put "version" m.version, put "id" m.id, put "created_at" m.createdAt,
    put "created_by" m.createdBy, put "description" m.description,
    put "filters" m.criteria.toJson, put "gmail_ids" m.providerIds, put "status" m.status.name]

instance : Encode Manifest := ⟨toJson⟩

/-- the largest version number -/
def versionLimit : Int := 4294967295

def ofJson? (v : Json) : Option Manifest :=
  match v.slots? ["version", "id", "created_at", "created_by", "description", "filters",
      "gmail_ids", "status"] with
  | some [version, id, createdAt, createdBy, description, criteria, providerIds, status] => do
    let version ← Json.need (Json.toIntIn? 0 versionLimit) version
    let id ← Json.need Json.toText? id
    let createdAt ← Json.need Instant.ofJson? createdAt
    let createdBy ← Json.need Json.toText? createdBy
    let description ← Json.need Json.toText? description
    let criteria ← Json.need Criteria.ofJson? criteria
    let providerIds ← Json.need (Json.toList? Json.toText?) providerIds
    let status ← Json.need BatchStatus.ofJson? status
    some { version, id, createdAt, createdBy, description, criteria, providerIds, status }
  | _ => none

def text (m : Manifest) : String := m.toJson.pretty

def read? (s : String) : Option Manifest := (Json.read? s).bind ofJson?

end Manifest
end MailBrowser
