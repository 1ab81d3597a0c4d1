import MailBrowser.Export.Names
import MailBrowser.Files.Store
import MailBrowser.Text.Quoted

/-!
# Exporting attachments

* `ExportReport`     what an export has done, `ExportReport.summary` in words;
* `ExportError`      why nothing was exported;
* `exportAll`        copies attachments from the content store into a directory.

An attachment that cannot be copied is noted and does not stop the others.
-/

namespace MailBrowser
open Text

structure ExportReport where
  dir : Path
  exported : Nat := 0
  bytes : Nat := 0
  errors : List String := []
deriving DecidableEq

inductive ExportError where
  | createDir (path : Path) (cause : FileError)
  | nothingExported (errors : List String)
deriving DecidableEq

def ExportError.message : ExportError → String
  | createDir path cause =>
    "failed to create export directory " ++ quotedText path ++ ": " ++ cause.message
  | nothingExported errors => "no attachments exported:\n" ++ "\n".intercalate errors

def ExportReport.summary (r : ExportReport) : String :=
  "Exported " ++ decimal r.exported ++ " attachment(s) (" ++ sizeText r.bytes ++ ") to " ++ r.dir ++
    if r.errors.isEmpty then "" else "\n" ++ decimal r.errors.length ++ " failed"

namespace Export

/-- an export under way -/
structure Progress where
  files : FileStore
  names : NameCounts := []
  report : ExportReport

def Progress.failed (p : Progress) (a : Attachment) (reason : String) : Progress :=
  { p with report := { p.report with errors := p.report.errors ++ [a.filename ++ ": " ++ reason] } }

/-- one attachment more; its name counts as taken also if the copy fails -/
def Progress.export_ (store : Path) (p : Progress) (a : Attachment) : Progress :=
  match blobPath? store a.contentHash with
  | none => p.failed a "missing content hash"
  | some src =>
    let (name, names) := p.names.take (safeName a)
    match p.files.copy src (Path.join p.report.dir name) with
    | .ok (files, n) =>
      { files, names
        report := { p.report with exported := p.report.exported + 1, bytes := p.report.bytes + n } }
    | .error e => { p with names }.failed a e.message

/-- The store is returned also from a failure: directories may have been made. -/
def exportAll (files : FileStore) (store dir : Path) (as : List Attachment) :
    FileStore × Except ExportError ExportReport :=
  match files.makeDirs dir with
  | .error e => (files, .error (.createDir dir e))
  | .ok files =>
    let p := as.foldl (Progress.export_ store) { files, report := { dir } }
    if p.report.exported = 0 then (p.files, .error (.nothingExported p.report.errors))
    else (p.files, .ok p.report)

end Export
end MailBrowser
