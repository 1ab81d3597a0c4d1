import Mathlib.Algebra.BigOperators.Group.List.Basic
import Mathlib.Algebra.Ring.Nat
import MailBrowser.Proofs.Export.Names
import MailBrowser.Proofs.Files.Operations

/-!
# What an export copies

An export gives every attachment with content a name and then copies one after another.  Names do
not depend on files, so that an export is a list of tasks and a run over it.

* `tasks`, `step`, `run`     the names that are given, one copy, all of them;
* `exportAll_eq`             an export is a run and the report of it;
* `step_cases`               what one task comes to;
* `run_nodeAt?`              a run writes below the directory, at the names of its copies;
* `run_copies`               copies under different names stay as they were made.
-/

namespace MailBrowser
open Text

namespace Export

/-- an attachment, with where its content is and the name it is given -/
structure Task where
  attachment : Attachment
  copy? : Option (Path × String)

structure Copy where
  attachment : Attachment
  source : Path
  name : String
  bytes : Nat

inductive Outcome where
  | copied (c : Copy)
  | failed (a : Attachment) (reason : String)

namespace Outcome

def attachment : Outcome → Attachment
  | copied c => c.attachment
  | failed a _ => a

def copy? : Outcome → Option Copy
  | copied c => some c
  | failed _ _ => none

def error? : Outcome → Option String
  | copied _ => none
  | failed a reason => some (a.filename ++ ": " ++ reason)

end Outcome

def copies (os : List Outcome) : List Copy := os.filterMap Outcome.copy?

def errors (os : List Outcome) : List String := os.filterMap Outcome.error?

section Outcomes

variable (c : Copy) (a : Attachment) (reason : String) (os : List Outcome)

@[simp] theorem copies_nil : copies [] = [] := rfl

@[simp] theorem errors_nil : errors [] = [] := rfl

@[simp] theorem copies_copied : copies (.copied c :: os) = c :: copies os := rfl

@[simp] theorem errors_copied : errors (.copied c :: os) = errors os := rfl

@[simp] theorem copies_failed : copies (.failed a reason :: os) = copies os := rfl

@[simp] theorem errors_failed :
    errors (.failed a reason :: os) = (a.filename ++ ": " ++ reason) :: errors os := rfl

/-- Every outcome is counted once. -/
theorem length_copies_add_length_errors :
    (copies os).length + (errors os).length = os.length := by
  induction os with
  | nil => rfl
  | cons o os ih =>
    cases o with
    | copied c =>
      rw [copies_copied, errors_copied, List.length_cons, List.length_cons]
      omega
    | failed a reason =>
      rw [copies_failed, errors_failed, List.length_cons, List.length_cons]
      omega

end Outcomes

theorem copies_cons_of_none {o : Outcome} (h : o.copy? = none) (os : List Outcome) :
    copies (o :: os) = copies os := List.filterMap_cons_none h

def taskOf (store : Path) (counts : NameCounts) (a : Attachment) : Task × NameCounts :=
  match blobPath? store a.contentHash with
  | none => (⟨a, none⟩, counts)
  | some source => (⟨a, some (source, (counts.take (safeName a)).1)⟩, (counts.take (safeName a)).2)

def tasksFrom (store : Path) : NameCounts → List Attachment → List Task
  | _, [] => []
  | counts, a :: as => (taskOf store counts a).1 :: tasksFrom store (taskOf store counts a).2 as

def tasks (store : Path) (as : List Attachment) : List Task := tasksFrom store [] as

def step (dir : Path) (files : FileStore) (t : Task) : FileStore × Outcome :=
  match t.copy? with
  | none => (files, .failed t.attachment "missing content hash")
  | some (source, name) =>
    match files.copy source (Path.join dir name) with
    | .ok (files, bytes) => (files, .copied ⟨t.attachment, source, name, bytes⟩)
    | .error e => (files, .failed t.attachment e.message)

def run (dir : Path) : FileStore → List Task → FileStore × List Outcome
  | files, [] => (files, [])
  | files, t :: ts =>
    ((run dir (step dir files t).1 ts).1,
      (step dir files t).2 :: (run dir (step dir files t).1 ts).2)

/-! ## an export as a run -/

/-- a report with outcomes added -/
def noting (r : ExportReport) (os : List Outcome) : ExportReport :=
  { r with
    exported := r.exported + (copies os).length
    bytes := r.bytes + ((copies os).map Copy.bytes).sum
    errors := r.errors ++ errors os }

theorem noting_cons (r : ExportReport) (o : Outcome) (os : List Outcome) :
    noting (noting r [o]) os = noting r (o :: os) := by
  cases o with
  | copied c => simp [noting, Nat.add_assoc, Nat.add_comm 1]
  | failed a reason => simp [noting]

theorem export_eq (store : Path) (p : Progress) (a : Attachment) :
    p.export_ store a = {
      files := (step p.report.dir p.files (taskOf store p.names a).1).1
      names := (taskOf store p.names a).2
      report := noting p.report [(step p.report.dir p.files (taskOf store p.names a).1).2] } := by
  unfold Progress.export_ taskOf step
  cases blobPath? store a.contentHash with
  | none => rfl
  | some source =>
    dsimp only
    cases p.files.copy source (Path.join p.report.dir (p.names.take (safeName a)).1) with
    | error e => rfl
    | ok r => simp [noting]

theorem foldl_export_ (store : Path) (as : List Attachment) (p : Progress) :
    (as.foldl (Progress.export_ store) p).files =
        (run p.report.dir p.files (tasksFrom store p.names as)).1 ∧
      (as.foldl (Progress.export_ store) p).report =
        noting p.report (run p.report.dir p.files (tasksFrom store p.names as)).2 := by
  induction as generalizing p with
  | nil => exact ⟨rfl, by simp [tasksFrom, run, noting]⟩
  | cons a as ih =>
    rw [List.foldl_cons, export_eq]
    obtain ⟨hfiles, hreport⟩ := ih { files := _, names := _, report := noting p.report [_] }
    exact ⟨hfiles, hreport.trans (noting_cons _ _ _)⟩

/-- **An export is a run over its tasks and the report of the outcomes.** -/
theorem exportAll_eq {files made : FileStore} {store dir : Path} {as : List Attachment}
    (h : files.makeDirs dir = .ok made) :
    exportAll files store dir as = ((run dir made (tasks store as)).1,
      if copies (run dir made (tasks store as)).2 = [] then
        .error (.nothingExported (errors (run dir made (tasks store as)).2))
      else .ok (noting { dir } (run dir made (tasks store as)).2)) := by
  generalize hr : run dir made (tasks store as) = r
  obtain ⟨hfiles, hreport⟩ :
      (as.foldl (Progress.export_ store) { files := made, report := { dir } }).files = r.1 ∧
        (as.foldl (Progress.export_ store) { files := made, report := { dir } }).report =
          noting { dir } r.2 := hr ▸ foldl_export_ store as { files := made, report := { dir } }
  have hexported : (noting { dir } r.2).exported = (copies r.2).length := Nat.zero_add _
  have herrors : (noting { dir } r.2).errors = errors r.2 := List.nil_append _
  simp only [exportAll, h, hfiles, hreport, hexported, herrors, List.length_eq_zero_iff]
  split
  · rfl
  · rfl

/-! ## tasks -/

/-- the attachments that have content -/
def kept (store : Path) (as : List Attachment) : List Attachment :=
  as.filter fun a => (blobPath? store a.contentHash).isSome

def names (ts : List Task) : List String := ts.filterMap fun t => t.copy?.map Prod.snd

theorem attachment_tasksFrom (store : Path) (counts : NameCounts) (as : List Attachment) :
    (tasksFrom store counts as).map Task.attachment = as := by
  induction as generalizing counts with
  | nil => rfl
  | cons a as ih =>
    rw [tasksFrom, List.map_cons, ih]
    unfold taskOf
    cases blobPath? store a.contentHash <;> rfl

theorem blobPath?_of_mem_tasksFrom {store : Path} {counts : NameCounts} {as : List Attachment}
    {t : Task} {source : Path} {name : String} (ht : t ∈ tasksFrom store counts as)
    (hc : t.copy? = some (source, name)) :
    blobPath? store t.attachment.contentHash = some source := by
  induction as generalizing counts with
  | nil => cases ht
  | cons a as ih =>
    rcases List.mem_cons.1 ht with rfl | ht
    · unfold taskOf at hc ⊢
      cases hb : blobPath? store a.contentHash with
      | none =>
        rw [hb] at hc
        cases hc
      | some path =>
        rw [hb] at hc
        exact hb.trans (congrArg some (Prod.mk.inj (Option.some.inj hc)).1)
    · exact ih ht

theorem names_tasksFrom {store : Path} {counts : NameCounts} {before : List String}
    (h : Represents counts before) (as : List Attachment) :
    names (tasksFrom store counts as) =
      (occurrences before ((kept store as).map safeName)).map fun o => nthName o.1 o.2 := by
  induction as generalizing counts before with
  | nil => rfl
  | cons a as ih =>
    unfold kept tasksFrom taskOf
    cases hb : blobPath? store a.contentHash with
    | none =>
      rw [List.filter_cons_of_neg (by simp [hb])]
      exact ih h
    | some source =>
      obtain ⟨hname, hcounts⟩ := take_of_represents h (safeName a)
      rw [List.filter_cons_of_pos (by simp [hb]), List.map_cons, occurrences, List.map_cons,
        ← hname]
      exact congrArg _ (ih hcounts)

/-- The tasks have the names of the export. -/
theorem names_tasks (store : Path) (as : List Attachment) :
    names (tasks store as) = targetNames (kept store as) := by
  rw [targetNames_eq]
  exact names_tasksFrom represents_nil as

/-! ## one task -/

variable {dir : Path} {files : FileStore} {d : Place}

/-- A copy puts `content` at its name below `d`, from a file elsewhere that has this content. -/
structure Put (dir : Path) (files : FileStore) (c : Copy) (files' : FileStore) (d : Place)
    (content : ByteArray) : Prop where
  base : files.baseOf dir = .ok d
  path : files.locate (Path.join dir c.name) = .ok (d ++ [c.name])
  free : files.nodeAt? (d ++ [c.name]) ≠ some .dir
  after : files' = files.setNode (d ++ [c.name]) (.file content)
  source : ∃ place before, files.locate c.source = .ok place ∧ files.fileAt? place = some before ∧
    (place ≠ d ++ [c.name] → content = before)

/-- **A task fails and leaves the files as they are, or puts one file below the directory.** -/
theorem step_cases (dir : Path) (files : FileStore) (t : Task)
    (hn : ∀ name ∈ names [t], Path.IsName name) :
    ((step dir files t).1 = files ∧ (step dir files t).2.copy? = none) ∨
      ∃ c d content, t.copy? = some (c.source, c.name) ∧ c.attachment = t.attachment ∧
        (step dir files t).2 = .copied c ∧ Put dir files c (step dir files t).1 d content := by
  unfold step
  cases ht : t.copy? with
  | none => exact .inl ⟨rfl, rfl⟩
  | some r =>
    obtain ⟨source, name⟩ := r
    dsimp only
    cases hcopy : files.copy source (Path.join dir name) with
    | error e => exact .inl ⟨rfl, rfl⟩
    | ok r =>
      obtain ⟨files', bytes⟩ := r
      obtain ⟨place, q, before, content, hplace, hbefore, hq, hfree, rfl, hsame⟩ :=
        FileStore.copy_eq_ok hcopy
      obtain ⟨d, hd, -, rfl⟩ := FileStore.locate_join (hn name (by simp [names, ht])) hq
      exact .inr ⟨⟨t.attachment, source, name, bytes⟩, d, content, rfl, rfl, rfl,
        ⟨hd, hq, hfree, rfl, place, before, hplace, hbefore, hsame⟩⟩

theorem Put.grows {c : Copy} {files' : FileStore} {content : ByteArray}
    (h : Put dir files c files' d content) : FileStore.Grows files files' :=
  h.after ▸ FileStore.grows_setNode h.free _

/-! ## all tasks -/

theorem names_cons (t : Task) (ts : List Task) : names (t :: ts) = names [t] ++ names ts :=
  List.filterMap_append (l := [t])

theorem attachment_step (dir : Path) (files : FileStore) (t : Task) :
    (step dir files t).2.attachment = t.attachment := by
  unfold step
  split
  · rfl
  · split
    · rfl
    · rfl

/-- Every attachment has one outcome. -/
theorem attachment_run (dir : Path) (files : FileStore) (ts : List Task) :
    (run dir files ts).2.map Outcome.attachment = ts.map Task.attachment := by
  induction ts generalizing files with
  | nil => rfl
  | cons t ts ih => rw [run, List.map_cons, List.map_cons, ih, attachment_step]

/-- The first task fails, or its copy comes first. -/
theorem run_cons_cases (dir : Path) (files : FileStore) {t : Task} {ts : List Task}
    (hn : ∀ name ∈ names (t :: ts), Path.IsName name) :
    ((run dir files (t :: ts)).1 = (run dir files ts).1 ∧
      copies (run dir files (t :: ts)).2 = copies (run dir files ts).2) ∨
    ∃ c files' d content, t.copy? = some (c.source, c.name) ∧ c.attachment = t.attachment ∧
      Put dir files c files' d content ∧ (run dir files (t :: ts)).1 = (run dir files' ts).1 ∧
      copies (run dir files (t :: ts)).2 = c :: copies (run dir files' ts).2 := by
  rw [names_cons] at hn
  rw [run]
  rcases step_cases dir files t fun name h =>
    hn name (List.mem_append_left _ h) with ⟨hs, ho⟩ | ⟨c, d, content, hc, ha, ho, hp⟩
  · exact .inl ⟨by rw [hs], by rw [copies_cons_of_none ho, hs]⟩
  · exact .inr ⟨c, _, d, content, hc, ha, hp, rfl, by rw [ho, copies_copied]⟩

theorem isName_of_cons {t : Task} {ts : List Task}
    (hn : ∀ name ∈ names (t :: ts), Path.IsName name) : ∀ name ∈ names ts, Path.IsName name :=
  fun name h => hn name (names_cons t ts ▸ List.mem_append_right _ h)

theorem names_cons_of_copy {t : Task} {ts : List Task} {source : Path} {name : String}
    (h : t.copy? = some (source, name)) : names (t :: ts) = name :: names ts := by
  simp [names, h]

theorem run_grows {ts : List Task} (hn : ∀ name ∈ names ts, Path.IsName name) :
    FileStore.Grows files (run dir files ts).1 := by
  induction ts generalizing files with
  | nil => exact FileStore.Grows.refl files
  | cons t ts ih =>
    rcases run_cons_cases dir files hn with
      ⟨hfiles, -⟩ | ⟨c, files', d, content, -, -, hp, hfiles, -⟩
    · rw [hfiles]
      exact ih (isName_of_cons hn)
    · rw [hfiles]
      exact hp.grows.trans (ih (isName_of_cons hn))

/-- **A run changes what stands at the names of its copies, below the directory, and nothing
else.** -/
theorem run_nodeAt? (dir : Path) (files : FileStore) {ts : List Task}
    (hn : ∀ name ∈ names ts, Path.IsName name) (q : Place) :
    (run dir files ts).1.nodeAt? q = files.nodeAt? q ∨
      ∃ d c, files.baseOf dir = .ok d ∧ c ∈ copies (run dir files ts).2 ∧ q = d ++ [c.name] := by
  induction ts generalizing files with
  | nil => exact .inl rfl
  | cons t ts ih =>
    rcases run_cons_cases dir files hn with
      ⟨hfiles, hcopies⟩ | ⟨c, files', d, content, -, -, hp, hfiles, hcopies⟩
    · rw [hfiles, hcopies]
      exact ih files (isName_of_cons hn)
    · rw [hfiles, hcopies]
      have hrest := ih files' (isName_of_cons hn)
      rcases hrest with hsame | ⟨d', c', hd', hc', rfl⟩
      · by_cases hq : q = d ++ [c.name]
        · exact .inr ⟨d, c, hp.base, List.mem_cons_self, hq⟩
        · left
          rw [hsame, hp.after, FileStore.nodeAt?_setNode _ (FileStore.ne_nil_of_not_dir hp.free),
            if_neg hq]
      · rw [FileStore.baseOf_of_grows hp.grows hp.base] at hd'
        obtain rfl := Except.ok.inj hd'
        exact .inr ⟨d, c', hp.base, List.mem_cons_of_mem c hc', rfl⟩

/-- The names of the copies are those of the tasks that succeed. -/
theorem names_copies_sublist {ts : List Task} (hn : ∀ name ∈ names ts, Path.IsName name) :
    ((copies (run dir files ts).2).map Copy.name).Sublist (names ts) := by
  induction ts generalizing files with
  | nil => exact List.Sublist.refl _
  | cons t ts ih =>
    rcases run_cons_cases dir files hn with
      ⟨-, hcopies⟩ | ⟨c, files', d, content, hc, -, -, -, hcopies⟩
    · rw [hcopies, names_cons]
      exact (ih (isName_of_cons hn)).trans (List.sublist_append_right _ _)
    · rw [hcopies, List.map_cons, names_cons_of_copy hc]
      exact (ih (isName_of_cons hn)).cons_cons c.name

/-- A copy is made for a task. -/
theorem exists_task_of_mem_copies {ts : List Task} (hn : ∀ name ∈ names ts, Path.IsName name)
    {c : Copy} (hc : c ∈ copies (run dir files ts).2) :
    ∃ t ∈ ts, t.attachment = c.attachment ∧ t.copy? = some (c.source, c.name) := by
  induction ts generalizing files with
  | nil => cases hc
  | cons t ts ih =>
    have hrest {files : FileStore} (h : c ∈ copies (run dir files ts).2) :
        ∃ t' ∈ t :: ts, t'.attachment = c.attachment ∧ t'.copy? = some (c.source, c.name) := by
      obtain ⟨t', ht', h⟩ := ih (isName_of_cons hn) h
      exact ⟨t', List.mem_cons_of_mem t ht', h⟩
    rcases run_cons_cases dir files hn with
      ⟨-, hcopies⟩ | ⟨c', files', d, content, hc', ha, -, -, hcopies⟩
    · exact hrest (hcopies ▸ hc)
    · rcases List.mem_cons.1 (hcopies ▸ hc) with rfl | hc
      · exact ⟨t, List.mem_cons_self, ha.symm, hc'⟩
      · exact hrest hc

/-- A copy is put at the place of the directory and its name. -/
theorem locate_of_mem_copies {ts : List Task} (hn : ∀ name ∈ names ts, Path.IsName name) {c : Copy}
    (hc : c ∈ copies (run dir files ts).2) :
    ∃ d, files.baseOf dir = .ok d ∧
      (run dir files ts).1.locate (Path.join dir c.name) = .ok (d ++ [c.name]) := by
  induction ts generalizing files with
  | nil => cases hc
  | cons t ts ih =>
    rcases run_cons_cases dir files hn with
      ⟨hfiles, hcopies⟩ | ⟨c', files', d, content, -, -, hp, hfiles, hcopies⟩
    · rw [hfiles]
      exact ih (isName_of_cons hn) (hcopies ▸ hc)
    · rw [hfiles]
      have hgrows : FileStore.Grows files' (run dir files' ts).1 := run_grows (isName_of_cons hn)
      rcases List.mem_cons.1 (hcopies ▸ hc) with rfl | hc
      · exact ⟨d, hp.base, FileStore.locate_of_grows (hp.grows.trans hgrows) hp.path⟩
      · obtain ⟨d', hd', hlocate⟩ := ih (isName_of_cons hn) hc
        rw [FileStore.baseOf_of_grows hp.grows hp.base] at hd'
        obtain rfl := Except.ok.inj hd'
        exact ⟨d, hp.base, hlocate⟩

/-! ## copies under different names -/

/-- Copies that are put where nothing stood leave what can be read. -/
theorem run_read {ts : List Task} (hn : ∀ name ∈ names ts, Path.IsName name)
    (hd : files.baseOf dir = .ok d) (hfree : ∀ name ∈ names ts, files.nodeAt? (d ++ [name]) = none)
    {p : Path} {content : ByteArray} (h : files.read p = .ok content) :
    (run dir files ts).1.read p = .ok content := by
  obtain ⟨q, hq, hc⟩ := FileStore.read_eq_ok_iff.1 h
  refine FileStore.read_eq_ok_iff.2 ⟨q, FileStore.locate_of_grows (run_grows hn) hq, ?_⟩
  rw [FileStore.fileAt?_eq_some_iff] at hc ⊢
  rcases run_nodeAt? dir files hn q with hsame | ⟨d', c, hd', hcopy, rfl⟩
  · rw [hsame, hc]
  · rw [hd] at hd'
    obtain rfl := Except.ok.inj hd'
    have hname : c.name ∈ names ts :=
      (names_copies_sublist hn).subset (List.mem_map_of_mem hcopy)
    rw [hfree c.name hname] at hc
    cases hc

/-- The copy is what its source is and, if the source was there before, was. -/
def Faithful (dir : Path) (files files' : FileStore) (c : Copy) : Prop :=
  ∃ content, files'.read (Path.join dir c.name) = .ok content ∧
    files'.read c.source = .ok content ∧
    ∀ before, files.read c.source = .ok before → content = before

/-- A copy put where nothing stood has the content of its source. -/
theorem Put.read {c : Copy} {files' : FileStore} {content : ByteArray}
    (h : Put dir files c files' d content) (hnone : files.nodeAt? (d ++ [c.name]) = none) :
    files.read c.source = .ok content ∧ files'.read c.source = .ok content ∧
      files'.read (Path.join dir c.name) = .ok content := by
  obtain ⟨place, before, hplace, hbefore, hsame⟩ := h.source
  have hne : place ≠ d ++ [c.name] := by
    rintro rfl
    rw [FileStore.fileAt?_eq_some_iff, hnone] at hbefore
    cases hbefore
  obtain rfl := hsame hne
  have hsource : files.read c.source = .ok content :=
    FileStore.read_eq_ok_iff.2 ⟨place, hplace, hbefore⟩
  refine ⟨hsource, h.after ▸ FileStore.read_setNode hnone _ hsource, ?_⟩
  refine FileStore.read_eq_ok_iff.2
    ⟨d ++ [c.name], FileStore.locate_of_grows h.grows h.path, ?_⟩
  rw [h.after, FileStore.fileAt?_setNode h.free, if_pos rfl]

/-- **Copies under different names, put where nothing stood, are all there in the end, each as it
was made.** -/
theorem run_copies {ts : List Task} (hn : ∀ name ∈ names ts, Path.IsName name)
    (hdiff : (names ts).Nodup) (hd : files.baseOf dir = .ok d)
    (hfree : ∀ name ∈ names ts, files.nodeAt? (d ++ [name]) = none) :
    (run dir files ts).1.namesIn d =
        files.namesIn d ++ (copies (run dir files ts).2).map Copy.name ∧
      ∀ c ∈ copies (run dir files ts).2, Faithful dir files (run dir files ts).1 c := by
  induction ts generalizing files with
  | nil => exact ⟨(List.append_nil _).symm, fun c hc => absurd hc List.not_mem_nil⟩
  | cons t ts ih =>
    have hn' := isName_of_cons hn
    rcases run_cons_cases dir files hn with
      ⟨hfiles, hcopies⟩ | ⟨c, files', d', content, hc, -, hp, hfiles, hcopies⟩
    · rw [names_cons] at hdiff hfree
      rw [hfiles, hcopies]
      exact ih hn' (List.nodup_append.1 hdiff).2.1 hd
        fun name h => hfree name (List.mem_append_right _ h)
    · have hd' := hp.base
      rw [hd] at hd'
      obtain rfl := Except.ok.inj hd'
      rw [names_cons_of_copy hc] at hdiff hfree
      obtain ⟨hnew, hdiff⟩ := List.nodup_cons.1 hdiff
      have hnone := hfree c.name List.mem_cons_self
      have hbase := FileStore.baseOf_of_grows hp.grows hd
      have hfree' : ∀ name ∈ names ts, files'.nodeAt? (d ++ [name]) = none := by
        intro name h
        rw [hp.after, FileStore.nodeAt?_setNode _ (FileStore.ne_nil_of_not_dir hp.free), if_neg,
          hfree name (List.mem_cons_of_mem _ h)]
        intro he
        exact hnew ((List.cons.inj (List.append_cancel_left he)).1 ▸ h)
      obtain ⟨hnames, hall⟩ := ih hn' hdiff hbase hfree'
      rw [hfiles, hcopies]
      refine ⟨?_, fun c' hc' => ?_⟩
      · rw [hnames, hp.after, FileStore.namesIn_setNode hnone, List.append_assoc, List.map_cons,
          List.singleton_append]
      · rcases List.mem_cons.1 hc' with rfl | hc'
        · obtain ⟨hbefore, hsource, htarget⟩ := hp.read hnone
          refine ⟨content, run_read hn' hbase hfree' htarget, run_read hn' hbase hfree' hsource, ?_⟩
          intro before hb
          rw [hbefore] at hb
          exact Except.ok.inj hb
        · obtain ⟨content', htarget, hsource, hsame⟩ := hall c' hc'
          refine ⟨content', htarget, hsource, fun before hb => hsame before ?_⟩
          rw [hp.after]
          exact FileStore.read_setNode hnone _ hb

end Export
end MailBrowser
