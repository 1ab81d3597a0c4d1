import MailBrowser.Browser.Basic

/-!
# Marks, deletions and exports

* `toggleMark`, `markVisible`     marks on the row under the cursor, on the rows on screen;
* `stageMarked`                   asks for a batch of what is marked;
* `manifestBuilt`, `manifestSaved`   the batch to be confirmed, the batch on the shelf;
* `openExport`, `exportChosen`, `exportFinished`   attachments into files.
-/

namespace MailBrowser
namespace Browser
open Text

def toggleMark (b : Browser) : Browser :=
  match b.view.level with
  | .groups | .subgroups =>
    match b.view.row? with
    | some row => { b with selection := b.selection.toggleKey b.view.dimension row.key }
    | none => b
  | .list =>
    match b.view.message? with
    | some m => { b with selection := b.selection.toggleMessage m.id }
    | none => b
  | _ => b

/-- the part of a list that is on screen -/
def visible {α : Type} (b : Browser) (xs : List α) : List α :=
  (xs.drop b.view.window.scroll).take b.pageSize

def markVisible (b : Browser) : Browser :=
  match b.view.level with
  | .groups | .subgroups =>
    let keys := (b.visible b.view.data.rows).map Row.key
    { b with selection := b.selection.addKeys b.view.dimension keys }
  | .list =>
    let ids := (b.visible b.view.data.messages).map Summary.id
    { b with selection := b.selection.addMessages ids }
  | _ => b

/-! ## deletions -/

def nothingMarked : String := "No messages selected. Use Space to select, S for all visible."

/-- the one account that is looked at, if it is known -/
def onlyAccount? (b : Browser) : Option Account :=
  match b.account with
  | some id => b.accounts.find? fun a => a.id == id
  | none =>
    match b.accounts with
    | [a] => some a
    | _ => none

def accountWarning : String := "⚠ Multiple accounts: manifest has no account scope"

/-- the provider's names of the marked messages of the list on screen -/
def markedProviderIds (b : Browser) : List String :=
  if b.view.level = .list then
    (b.view.data.messages.filter fun m => m.id ∈ b.selection.messages).map Summary.providerId
  else []

def stageRequest (b : Browser) : StageRequest where
  dimension := b.selection.dimension
  keys := b.selection.keys.items
  granularity := b.view.granularity
  account := b.account
  providerIds := b.markedProviderIds
  accountName := (b.onlyAccount?.map Account.identifier).getD ""
  warning := if b.onlyAccount?.isSome then none else some accountWarning

/-- With `orCurrent`, the row under the cursor is marked if nothing is. -/
def stageMarked (b : Browser) (orCurrent : Bool) : Step :=
  let b := if orCurrent && b.selection.isEmpty then b.toggleMark else b
  if b.selection.isEmpty then b.notify nothingMarked
  else ({ b with busy := some "Preparing deletion..." }, [.buildManifest b.stageRequest])

def manifestBuilt (b : Browser) (result : Except DeletionError StagedBatch) : Step :=
  let b := { b with busy := none }
  match result with
  | .ok staged => ({ b with dialog := some (.deletion staged) }, [])
  | .error .nothingSelected => b.notify nothingMarked
  | .error e => b.notify ("Staging failed: " ++ e.message)

def manifestSaved (b : Browser) (result : Except DeletionError (String × Nat)) : Step :=
  let b := { b with busy := none }
  match result with
  | .ok (id, count) =>
    { b with selection := b.selection.clear }.notify
      ("Staged " ++ decimal count ++ " messages for deletion.\nBatch ID: " ++ id)
  | .error e => b.notify ("Staging failed: " ++ e.message)

/-! ## exports -/

/-- the dialog to choose attachments, with all of them chosen -/
def openExport (b : Browser) : Step :=
  match b.view.data.detail.map fun d => d.attachments.length with
  | none => (b, [])
  | some 0 => b.notify "No attachments to export"
  | some n => ({ b with dialog := some (.attachments 0 (.ofList (List.range n))) }, [])

/-- the members of a list at the chosen places -/
def chosenOf {α : Type} (chosen : OrdSet Nat) (xs : List α) : List α :=
  (xs.zipIdx.filter fun x => x.2 ∈ chosen).map Prod.fst

def exportChosen (b : Browser) (chosen : OrdSet Nat) : Step :=
  match b.view.data.detail with
  | none => (b, [])
  | some d =>
    let as := chosenOf chosen d.attachments
    if as.isEmpty then b.notify "No attachments selected"
    else
      ({ b with busy := some "Exporting attachments..." },
        [.exportAttachments d.subject d.id as])

def exportFinished (b : Browser) (result : Except ExportError ExportReport) : Step :=
  let b := { b with busy := none }
  match result with
  | .ok report => b.notify report.summary
  | .error e => b.notify ("Export failed: " ++ e.message)

end Browser
end MailBrowser
