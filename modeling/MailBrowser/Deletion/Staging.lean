import MailBrowser.Deletion.Manifest
import MailBrowser.Engine.Interface
import MailBrowser.OrdSet

/-!
# Staging a deletion

* `StageRequest`    marked keys and messages, and what they are to be resolved under;
* `resolveKeys`     the provider's names of all messages with one of the keys;
* `stage`           the batch of a request, to be confirmed.
-/

namespace MailBrowser
open Text

structure StageRequest where
  /-- the dimension that the keys were marked under -/
  dimension : Dimension := .senders
  keys : List String := []
  granularity : Granularity := .month
  account : Option Int := none
  /-- the provider's names of the marked messages -/
  providerIds : List String := []
  /-- the account that the batch names, empty if it names none -/
  accountName : String := ""
  warning : Option String := none
deriving DecidableEq

/-- a batch that waits for confirmation -/
structure StagedBatch where
  manifest : Manifest
  warning : Option String := none
deriving DecidableEq

inductive DeletionError where
  | nothingSelected
  | query (cause : QueryError)
  /-- the reason of the file system -/
  | disk (reason : String)
  /-- a manifest file that cannot be read -/
  | malformed
deriving DecidableEq

def DeletionError.message : DeletionError → String
  | nothingSelected => "no messages selected"
  | query cause => "error loading messages: " ++ cause.message
  | disk reason => "failed to write manifest: " ++ reason
  | malformed => "failed to encode manifest: malformed text"

namespace StageRequest

/-- the characters of a description that are kept -/
def descriptionLimit : Nat := 30

def fullDescription (r : StageRequest) : String :=
  match r.keys with
  | [key] => r.dimension.label ++ "-" ++ key
  | [] =>
    if r.providerIds.isEmpty then "selection"
    else "messages-multiple(" ++ decimal r.providerIds.length ++ ")"
  | keys => r.dimension.label ++ "-multiple(" ++ decimal keys.length ++ ")"

def description (r : StageRequest) : String :=
  .ofList (r.fullDescription.toList.take descriptionLimit)

/-- the first key, under its dimension if a manifest records that -/
def criteria (r : StageRequest) : Criteria :=
  let named : Criteria := { account := if r.accountName.isEmpty then none else some r.accountName }
  match r.keys with
  | [] => named
  | key :: _ =>
    match r.dimension with
    | .senders => { named with senders := [key] }
    | .recipients => { named with recipients := [key] }
    | .domains => { named with senderDomains := [key] }
    | .labels => { named with labels := [key] }
    | _ => named

end StageRequest

/-- what an engine answers for each key, one list after the other -/
def resolveKeys (e : Engine) (r : StageRequest) : List String → Answer (List String)
  | [] => .ok []
  | key :: keys =>
    match e.providerIds (.forKey r.dimension key r.granularity r.account) with
    | .error err => .error err
    | .ok ids =>
      match resolveKeys e r keys with
      | .error err => .error err
      | .ok more => .ok (ids ++ more)

def stage (e : Engine) (r : StageRequest) (now : Instant) : Except DeletionError StagedBatch :=
  match resolveKeys e r r.keys with
  | .error err => .error (.query err)
  | .ok ids =>
    let ids : OrdSet String := .ofList (ids ++ r.providerIds)
    if ids.isEmpty then .error .nothingSelected
    else .ok {
      manifest := .make r.description ids.items r.criteria "tui" now
      warning := r.warning }

/-- the lines of the question before a batch is saved -/
def StagedBatch.question (s : StagedBatch) : List String :=
  ["Stage " ++ decimal s.manifest.count ++ " message(s) for deletion?",
    "Batch: " ++ s.manifest.description] ++ s.warning.toList ++ ["", "(y/n)"]

end MailBrowser
