import MailBrowser.Archive.Questions
import MailBrowser.Files.Store

/-!
# Opening an archive file

* `Archive.load`   the archive in a file.
-/

namespace MailBrowser
namespace Archive

def ofText (p : Path) (text : String) : Answer Archive :=
  match ArchiveFile.read? text with
  | some f => .ok (.ofFile f)
  | none => .error (.parse (p ++ ": not an archive"))

def load (files : FileStore) (p : Path) : Answer Archive :=
  match files.readText p with
  | .ok text => Archive.ofText p text
  | .error e => .error (.io (p ++ ": " ++ e.message))

end Archive
end MailBrowser
