import MailBrowser.Deletion.Staging
import MailBrowser.Files.Store

/-!
# The shelf of manifests

Manifests are kept in one directory for each status, below a base directory.

* `shelfDir`        the directory of a status;
* `saveManifest`    writes a manifest to its directory, in place of one of the same name;
* `listManifests`   the manifests of a status, oldest first.
-/

namespace MailBrowser

def DeletionError.ofFile (e : FileError) : DeletionError := .disk e.message

def shelfDir (base : Path) (s : BatchStatus) : Path := Path.join base s.name

def manifestPath (base : Path) (m : Manifest) : Path :=
  Path.join (shelfDir base m.status) (m.id ++ ".json")

def saveManifest (files : FileStore) (base : Path) (m : Manifest) :
    Except DeletionError (FileStore × Path) :=
  match files.makeDirs (shelfDir base m.status) with
  | .error e => .error (.ofFile e)
  | .ok files =>
    match files.writeText (manifestPath base m) m.text with
    | .error e => .error (.ofFile e)
    | .ok files => .ok (files, manifestPath base m)

def loadManifest (files : FileStore) (p : Path) : Except DeletionError Manifest :=
  match files.readText p with
  | .error e => .error (.ofFile e)
  | .ok text =>
    match Manifest.read? text with
    | none => .error .malformed
    | some m => .ok m

/-- oldest first, equal times by name -/
def Manifest.shelvedBefore (a b : Manifest) : Bool :=
  a.createdAt.before b.createdAt || (a.createdAt == b.createdAt && decide (a.id ≤ b.id))

def listManifests (files : FileStore) (base : Path) (s : BatchStatus) :
    Except DeletionError (List Manifest) :=
  let dir := shelfDir base s
  if files.exists_ dir then
    match files.entries dir with
    | .error e => .error (.ofFile e)
    | .ok names => do
      let ms ← (names.filter fun n => Path.extensionOf? n == some "json").mapM fun n =>
        loadManifest files (Path.join dir n)
      .ok (ms.mergeSort Manifest.shelvedBefore)
  else .ok []

end MailBrowser
