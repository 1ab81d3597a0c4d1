import MailBrowser.Files.Path
import MailBrowser.Mail.Message

/-!
# Names for exported files

* `safeText`       a text without the characters that file systems refuse;
* `folderName`     the name of the directory for the attachments of a message;
* `safeName`       the file name of an attachment: the last component of what the mail says;
* `NameCounts.take`   a name, numbered from the second time on that it is taken;
* `blobPath?`      where the content of an attachment is stored.
-/

namespace MailBrowser
namespace Export
open Text

def refused : List Char := ['/', '\\', ':', '*', '?', '\x22', '<', '>', '|', '\n', '\r', '\t']

def safeChars (cs : List Char) : List Char := cs.map fun c => if c ∈ refused then '_' else c

def safeText (s : String) : String := .ofList (safeChars s.toList)

/-- the characters of a subject that a directory name keeps -/
def subjectLimit : Nat := 50

/-- subject and number of the message; a blank subject is replaced -/
def folderName (subject : String) (id : Int) : String :=
  let named := if isBlankText subject then "attachments" else subject
  .ofList ((safeChars named.toList).take subjectLimit) ++ "_" ++ decimal id

/-- A name from the mail may look like a path, and only its end is used. -/
def safeName (a : Attachment) : String :=
  let path := String.ofList (a.filename.toList.map fun c => if c = '\\' then '/' else c)
  let base := safeText ((Path.fileName? path).getD "")
  if base = "" ∨ base = "." ∨ base = ".." then "attachment_" ++ decimal a.id else base

/-- how often each name has been taken, after the first time -/
abbrev NameCounts := List (String × Nat)

/-- the name with a number before its extension -/
def numbered (name : String) (n : Nat) : String :=
  let stem := Path.stemOf name ++ "_" ++ decimal n
  match Path.extensionOf? name with
  | some ext => stem ++ "." ++ ext
  | none => stem

def NameCounts.take (counts : NameCounts) (name : String) : String × NameCounts :=
  match counts.find? fun c => c.1 == name with
  | none => (name, (name, 0) :: counts)
  | some (_, n) =>
    (numbered name (n + 1), counts.map fun c => if c.1 = name then (name, n + 1) else c)

/-- the first two bytes of a text, if no character crosses the end -/
def twoBytes? (s : String) : Option String :=
  match s.toList with
  | a :: r =>
    if a.utf8Size = 2 then some (.ofList [a])
    else match r with
      | b :: _ => if a.utf8Size = 1 ∧ b.utf8Size = 1 then some (.ofList [a, b]) else none
      | [] => none
  | [] => none

/-- Content is stored by its hash, in a directory named for the first two bytes of it. -/
def blobPath? (store : Path) (hash : String) : Option Path :=
  (twoBytes? hash).map fun p => Path.join (Path.join store p) hash

end Export
end MailBrowser
