import MailBrowser.Browser.Session

/-!
# What effects need of a disk

A session works on files that are held in a store.  A program with a disk fills the store before an
effect and carries the changes to the disk behind it.

* `Session.paths`       the paths that an effect reads or writes;
* `FileStore.changes`   what stands elsewhere, or otherwise, than in an earlier store;
* `Effect.failed`       the outcome of an effect whose changes cannot be carried over.
-/

namespace MailBrowser

/-- the names under which attachments are exported, in their order -/
def Export.targetNames (as : List Attachment) : List String :=
  (as.foldl (fun (names, counts) a =>
    let (name, counts) := NameCounts.take counts (safeName a)
    (name :: names, counts)) (([], []) : List String × NameCounts)).1.reverse

def Session.paths (s : Session) : Effect → List Path
  | .saveManifest m => [manifestPath s.shelf m]
  | .exportAttachments subject m as =>
    let dir := Path.join s.exportDir (Export.folderName subject m)
    let kept := as.filter fun a => (Export.blobPath? s.blobs a.contentHash).isSome
    kept.filterMap (fun a => Export.blobPath? s.blobs a.contentHash) ++
      (Export.targetNames kept).map (Path.join dir)
  | _ => []

def FileStore.changes (old new : FileStore) : List (Place × Node) :=
  new.nodes.filter fun n => old.nodeAt? n.1 != some n.2

def Effect.failed (reason : String) : Effect → Option Event
  | .saveManifest _ => some (.manifestSaved (.error (.disk reason)))
  | .exportAttachments _ _ _ => some (.exportFinished (.error (.nothingExported [reason])))
  | _ => none

end MailBrowser
