import MailBrowser.Archive.Questions
import MailBrowser.Proofs.Export.Copies

/-!
# What an export leaves behind

* `perform_export`         an export writes below its directory only, and says of every attachment
                           what became of it;
* `exportAll_distinct`     an export to an empty directory whose names differ has every copy there;
* `third_file_overwrites`  a name of the mail that looks like a numbered one is taken twice.
-/

namespace MailBrowser
namespace Export

open FileStore (Grows)

variable {files files' made : FileStore} {store dir : Path} {as : List Attachment}

theorem isName_of_mem_names_tasks (store : Path) (as : List Attachment) :
    ∀ name ∈ names (tasks store as), Path.IsName name := by
  intro name h
  rw [names_tasks] at h
  exact (isComponent_of_mem_targetNames h).toIsName

theorem mem_targetNames_of_mem_copies {c : Copy}
    (hc : c ∈ copies (run dir made (tasks store as)).2) :
    c.name ∈ targetNames (kept store as) := by
  rw [← names_tasks]
  exact (names_copies_sublist (isName_of_mem_names_tasks store as)).subset (List.mem_map_of_mem hc)

/-! ## where an export writes -/

theorem baseOf_folder {above : Path} {folder : String} (hfolder : Path.IsName folder) {d : Place}
    (hd : files.baseOf (Path.join above folder) = .ok d) :
    ∃ e, files.baseOf above = .ok e ∧ d = e ++ [folder] := by
  obtain ⟨e, he, -, hde⟩ := FileStore.locate_join hfolder
    (FileStore.locate_of_baseOf (Path.join_ne_empty above hfolder) hd)
  exact ⟨e, he, hde⟩

/-- Every copy of an export is one component below the folder. -/
theorem locate_copy {above : Path} {folder : String} (hfolder : Path.IsName folder) {c : Copy}
    (hc : c ∈ copies (run (Path.join above folder) made (tasks store as)).2) :
    ∃ e, (run (Path.join above folder) made (tasks store as)).1.baseOf above = .ok e ∧
      (run (Path.join above folder) made (tasks store as)).1.locate
        (Path.join (Path.join above folder) c.name) = .ok (e ++ [folder, c.name]) := by
  obtain ⟨d, hd, hlocate⟩ := locate_of_mem_copies (isName_of_mem_names_tasks store as) hc
  obtain ⟨e, he, rfl⟩ := baseOf_folder hfolder hd
  have hgrows : Grows made (run (Path.join above folder) made (tasks store as)).1 :=
    run_grows (isName_of_mem_names_tasks store as)
  refine ⟨e, FileStore.baseOf_of_grows hgrows he, ?_⟩
  rw [hlocate, List.append_assoc, List.singleton_append]

/-- Below a directory that is named by one component, the names of the copies are one more. -/
theorem fileAt?_exportAll {above : Path} {folder : String} (hfolder : Path.IsName folder)
    {q : Place}
    (hq : (exportAll files store (Path.join above folder) as).1.fileAt? q ≠ files.fileAt? q) :
    ∃ e name, (exportAll files store (Path.join above folder) as).1.baseOf above = .ok e ∧
      name ∈ targetNames (kept store as) ∧ q = e ++ [folder, name] := by
  cases hmade : files.makeDirs (Path.join above folder) with
  | error e =>
    simp only [exportAll, hmade] at hq
    exact absurd rfl hq
  | ok made =>
    rw [exportAll_eq hmade] at hq ⊢
    have honly := FileStore.makeDirs_onlyDirs hmade
    have hgrows : Grows made (run (Path.join above folder) made (tasks store as)).1 :=
      run_grows (isName_of_mem_names_tasks store as)
    rcases run_nodeAt? (Path.join above folder) made (isName_of_mem_names_tasks store as) q with
      hsame | ⟨d, c, hd, hc, rfl⟩
    · refine absurd ?_ hq
      rw [← honly.fileAt? q]
      unfold FileStore.fileAt?
      rw [hsame]
    · obtain ⟨e, he, rfl⟩ := baseOf_folder hfolder hd
      exact ⟨e, c.name, FileStore.baseOf_of_grows hgrows he, mem_targetNames_of_mem_copies hc,
        by simp⟩

/-! ## what an export reports -/

theorem attachment_run_tasks :
    (run dir made (tasks store as)).2.map Outcome.attachment = as := by
  rw [attachment_run]
  exact attachment_tasksFrom store [] as

theorem length_run_tasks : (run dir made (tasks store as)).2.length = as.length := by
  rw [← List.length_map (f := Outcome.attachment), attachment_run_tasks]

/-- Nothing is reported as exported exactly if there is no copy. -/
theorem exportAll_result (store : Path) (as : List Attachment)
    (h : files.makeDirs dir = .ok made) :
    (copies (run dir made (tasks store as)).2 ≠ [] →
      ∃ report, (exportAll files store dir as).2 = .ok report ∧
        report.exported = (copies (run dir made (tasks store as)).2).length ∧
        report.errors = errors (run dir made (tasks store as)).2) ∧
    (copies (run dir made (tasks store as)).2 = [] →
      (exportAll files store dir as).2 =
        .error (.nothingExported (errors (run dir made (tasks store as)).2))) := by
  rw [exportAll_eq h]
  refine ⟨fun hsome => ?_, fun hnone => ?_⟩
  · rw [if_neg hsome]
    exact ⟨_, rfl, Nat.zero_add _, List.nil_append _⟩
  · rw [if_pos hnone]

theorem perform_exportAttachments (s : Session) (now : Instant) (subject : String) (message : Int)
    (as : List Attachment) :
    s.perform now (.exportAttachments subject message as) =
      ({ s with files := (exportAll s.files s.blobs
          (Path.join s.exportDir (folderName subject message)) as).1 },
        some (.exportFinished (exportAll s.files s.blobs
          (Path.join s.exportDir (folderName subject message)) as).2)) := by
  generalize hdir : Path.join s.exportDir (folderName subject message) = dir
  simp only [Session.perform, Session.exportTo, hdir, Prod.map, id]

/-- **An export writes below its directory, at names of one component, and accounts for every
attachment once.** -/
theorem perform_export (s : Session) (now : Instant) (subject : String) (message : Int)
    (as : List Attachment) :
    let folder := folderName subject message
    let given := targetNames (kept s.blobs as)
    let after := s.perform now (.exportAttachments subject message as)
    Path.IsComponent folder ∧ (∀ name ∈ given, Path.IsComponent name) ∧
      (∀ q, after.1.files.fileAt? q ≠ s.files.fileAt? q →
        ∃ e name, after.1.files.baseOf s.exportDir = .ok e ∧ name ∈ given ∧
          q = e ++ [folder, name]) ∧
      ∀ made, s.files.makeDirs (Path.join s.exportDir folder) = .ok made →
        let done := run (Path.join s.exportDir folder) made (tasks s.blobs as)
        after.1.files = done.1 ∧
          (∀ c ∈ copies done.2, c.name ∈ given ∧ ∃ e, done.1.baseOf s.exportDir = .ok e ∧
            done.1.locate (Path.join (Path.join s.exportDir folder) c.name) =
              .ok (e ++ [folder, c.name])) ∧
          done.2.map Outcome.attachment = as ∧
          (copies done.2).length + (errors done.2).length = as.length ∧
          (copies done.2 ≠ [] → ∃ report, after.2 = some (.exportFinished (.ok report)) ∧
            report.exported = (copies done.2).length ∧ report.errors = errors done.2) ∧
          (copies done.2 = [] →
            after.2 = some (.exportFinished (.error (.nothingExported (errors done.2))))) := by
  have hfolder := isComponent_folderName subject message
  rw [perform_exportAttachments]
  dsimp only
  refine ⟨hfolder, fun name h => isComponent_of_mem_targetNames h,
    fun q hq => fileAt?_exportAll hfolder.toIsName hq, fun made hmade => ?_⟩
  obtain ⟨hsome, hnone⟩ := exportAll_result s.blobs as hmade
  refine ⟨by rw [exportAll_eq hmade],
    fun c hc => ⟨mem_targetNames_of_mem_copies hc, locate_copy hfolder.toIsName hc⟩,
    attachment_run_tasks, ?_, fun h => ?_, fun h => ?_⟩
  · rw [length_copies_add_length_errors, length_run_tasks]
  · obtain ⟨report, hreport, hcounts⟩ := hsome h
    exact ⟨report, by rw [hreport], hcounts⟩
  · rw [hnone h]

/-- a path for a name and an attachment without content -/
theorem perform_export_of_path :
    let s : Session := {
      engine := Archive.engine default
      files := { nodes := [
        (["home"], .dir), (["home", "attachments"], .dir), (["home", "attachments", "aa"], .dir),
        (["home", "attachments", "aa", "aa1"], .file ⟨#[1]⟩)] }
      dataDir := "."
      exportDir := "out" }
    let as : List Attachment :=
      [{ filename := "../../etc/passwd", contentHash := "aa1" }, { filename := "lost" }]
    ∃ report, (s.perform .epoch (.exportAttachments "Re: a/b" 7 as)).2 =
        some (.exportFinished (.ok report)) ∧
      report.exported + report.errors.length = 2 := by
  intro s as
  have hcopy : (s.files.makeDirs (Path.join s.exportDir (folderName "Re: a/b" 7))).toOption.map
      (fun made => (copies (run (Path.join s.exportDir (folderName "Re: a/b" 7)) made
        (tasks s.blobs as)).2).length) = some 1 := by decide +kernel
  obtain ⟨made, hmade, hcopy⟩ := Option.map_eq_some_iff.1 hcopy
  obtain ⟨-, -, -, hall⟩ := perform_export s .epoch "Re: a/b" 7 as
  obtain ⟨-, -, -, hlength, hsome, -⟩ := hall made (ok_of_toOption hmade)
  obtain ⟨report, hreport, hexported, herrors⟩ := hsome (List.ne_nil_of_length_pos (by omega))
  exact ⟨report, hreport, by rw [hexported, herrors]; exact hlength⟩

/-! ## an export to an empty directory -/

/-- Copies under different names fill a directory that held nothing. -/
theorem copies_exportAll (hmade : files.makeDirs dir = .ok made)
    (hempty : made.entries dir = .ok []) (hdiff : (targetNames (kept store as)).Nodup) :
    (exportAll files store dir as).1.entries dir =
        .ok (((copies (run dir made (tasks store as)).2).map Copy.name).mergeSort
          fun a b => decide (a ≤ b)) ∧
      ∀ c ∈ copies (run dir made (tasks store as)).2,
        Faithful dir files (exportAll files store dir as).1 c := by
  rw [exportAll_eq hmade]
  dsimp only
  rw [← names_tasks] at hdiff
  obtain ⟨d, hd, hdir, hnone⟩ := FileStore.entries_eq_nil_iff.1 hempty
  obtain ⟨hnames, hall⟩ := run_copies (isName_of_mem_names_tasks store as) hdiff
    (FileStore.baseOf_of_locate hd) fun name _ => hnone name
  have hgrows : Grows made (run dir made (tasks store as)).1 :=
    run_grows (isName_of_mem_names_tasks store as)
  have hnil : made.namesIn d = [] :=
    List.eq_nil_iff_forall_not_mem.2 fun name h => FileStore.mem_namesIn.1 h (hnone name)
  rw [hnil, List.nil_append] at hnames
  refine ⟨FileStore.entries_eq_ok_iff.2 ⟨d, FileStore.locate_of_grows hgrows hd,
    hgrows.dirs d hdir, by rw [hnames]⟩, fun c hc => ?_⟩
  obtain ⟨content, htarget, hsource, hsame⟩ := hall c hc
  exact ⟨content, htarget, hsource, fun before hb =>
    hsame before ((FileStore.makeDirs_onlyDirs hmade).read hb)⟩

theorem source_of_mem_copies {c : Copy} (hc : c ∈ copies (run dir made (tasks store as)).2) :
    c.attachment ∈ as ∧ blobPath? store c.attachment.contentHash = some c.source := by
  obtain ⟨t, ht, ha, hcopy⟩ := exists_task_of_mem_copies (isName_of_mem_names_tasks store as) hc
  have hmem : t.attachment ∈ (tasksFrom store [] as).map Task.attachment := List.mem_map_of_mem ht
  rw [attachment_tasksFrom] at hmem
  exact ⟨ha ▸ hmem, ha ▸ blobPath?_of_mem_tasksFrom ht hcopy⟩

theorem exported_of_ok {report : ExportReport} (hmade : files.makeDirs dir = .ok made)
    (h : exportAll files store dir as = (files', .ok report)) :
    report.exported = (copies (run dir made (tasks store as)).2).length := by
  obtain ⟨hsome, hnone⟩ := exportAll_result store as hmade
  by_cases hc : copies (run dir made (tasks store as)).2 = []
  · have herror := hnone hc
    rw [h] at herror
    cases herror
  · obtain ⟨report', hok, hlength, -⟩ := hsome hc
    rw [h] at hok
    obtain rfl := Except.ok.inj hok
    exact hlength

/-- **Names differ unless the mail has a name that looks like a numbered one, and then an export to
an empty directory leaves one file for every attachment that it reports, with its content.** -/
theorem exportAll_distinct {report : ExportReport} (hempty : files.HoldsNothing dir)
    (h : exportAll files store dir as = (files', .ok report)) :
    ((targetNames (kept store as)).Nodup ↔
      ∀ name ∈ (kept store as).map safeName, ∀ k, 1 ≤ k →
        k < ((kept store as).map safeName).count name →
        numbered name k ∉ (kept store as).map safeName) ∧
    ((targetNames (kept store as)).Nodup →
      ∃ made, files.makeDirs dir = .ok made ∧
        let cs := copies (run dir made (tasks store as)).2
        cs.length = report.exported ∧
          files'.entries dir = .ok ((cs.map Copy.name).mergeSort fun a b => decide (a ≤ b)) ∧
          ∀ c ∈ cs, c.attachment ∈ as ∧
            blobPath? store c.attachment.contentHash = some c.source ∧
            c.name ∈ targetNames (kept store as) ∧ Faithful dir files files' c) := by
  refine ⟨by rw [targetNames_eq, nodup_givenNames_iff], fun hdiff => ?_⟩
  obtain ⟨made, hmade, hnone⟩ := hempty
  obtain ⟨hentries, hall⟩ := copies_exportAll hmade hnone hdiff
  rw [h] at hentries hall
  refine ⟨made, hmade, (exported_of_ok hmade h).symm, hentries, fun c hc => ?_⟩
  obtain ⟨hmem, hsource⟩ := source_of_mem_copies hc
  exact ⟨hmem, hsource, mem_targetNames_of_mem_copies hc, hall c hc⟩

/-- the contents of three attachments, one byte each -/
def threeBlobs : FileStore where
  nodes := [
    (["home"], .dir), (["home", "blobs"], .dir), (["home", "blobs", "aa"], .dir),
    (["home", "blobs", "aa", "aa1"], .file ⟨#[1]⟩), (["home", "blobs", "aa", "aa2"], .file ⟨#[2]⟩),
    (["home", "blobs", "aa", "aa3"], .file ⟨#[3]⟩)]

def attached (filename hash : String) : Attachment := { filename, contentHash := hash }

theorem two_files_of_one_name :
    ∃ files' report listed, exportAll threeBlobs "blobs" "out"
        [attached "a.pdf" "aa1", attached "a.pdf" "aa2"] = (files', .ok report) ∧
      files'.entries "out" = .ok listed ∧ listed.length = report.exported := by
  generalize hr : exportAll threeBlobs "blobs" "out"
    [attached "a.pdf" "aa1", attached "a.pdf" "aa2"] = r
  have hok : r.2.isOk = true := by
    rw [← hr]
    decide +kernel
  obtain ⟨report, hreport⟩ := exists_ok_of_isOk hok
  have hempty : threeBlobs.HoldsNothing "out" := by decide +kernel
  obtain ⟨-, hfill⟩ := exportAll_distinct hempty (hr.trans (Prod.ext rfl hreport))
  obtain ⟨made, -, hlength, hentries, -⟩ := hfill (by decide +kernel)
  refine ⟨r.1, report, _, Prod.ext rfl hreport, hentries, ?_⟩
  rw [List.length_mergeSort, List.length_map, hlength]

/-- **A name of the mail that looks like a numbered one is taken twice.**  The third file replaces
the second, and three are reported where two are left. -/
theorem third_file_overwrites :
    threeBlobs.HoldsNothing "out" ∧
      targetNames [attached "a.pdf" "aa1", attached "a.pdf" "aa2", attached "a_1.pdf" "aa3"] =
        ["a.pdf", "a_1.pdf", "a_1.pdf"] ∧
      ∃ files' report listed, exportAll threeBlobs "blobs" "out"
          [attached "a.pdf" "aa1", attached "a.pdf" "aa2", attached "a_1.pdf" "aa3"] =
            (files', .ok report) ∧
        report.exported = 3 ∧ files'.entries "out" = .ok listed ∧ listed.length = 2 ∧
          files'.read "out/a_1.pdf" = .ok ⟨#[3]⟩ := by
  refine ⟨by decide +kernel, by decide +kernel, ?_⟩
  generalize hr : exportAll threeBlobs "blobs" "out"
    [attached "a.pdf" "aa1", attached "a.pdf" "aa2", attached "a_1.pdf" "aa3"] = r
  have hexported : r.2.toOption.map ExportReport.exported = some 3 := by
    rw [← hr]
    decide +kernel
  obtain ⟨report, hreport, hthree⟩ := Option.map_eq_some_iff.1 hexported
  have hplace : (r.1.locate "out").toOption = some ["home", "out"] := by
    rw [← hr]
    decide +kernel
  have hdir : r.1.nodeAt? ["home", "out"] = some .dir := by
    rw [← hr]
    decide +kernel
  have hnames : (r.1.namesIn ["home", "out"]).length = 2 := by
    rw [← hr]
    decide +kernel
  have hread : (r.1.read "out/a_1.pdf").toOption = some ⟨#[3]⟩ := by
    rw [← hr]
    decide +kernel
  refine ⟨r.1, report, _, Prod.ext rfl (ok_of_toOption hreport), hthree,
    FileStore.entries_eq_ok_iff.2 ⟨_, ok_of_toOption hplace, hdir, rfl⟩, ?_, ok_of_toOption hread⟩
  rw [List.length_mergeSort, hnames]

end Export
end MailBrowser
