import MailBrowser.Proofs.Export.Directory
import MailBrowser.Proofs.Files.Within

/-!
# Where an export reads

The content of an attachment is looked for at a path that is put together of the store's and the
hash that the archive gives.  Whether the hash leads out of the store is not asked.

* `sources`               the paths that the tasks of an export read;
* `LeadsInward`           the hashes of content in the store, `within_blobPath?_iff`;
* `AccountsFor`           what an outcome says of an attachment, and `run_accounts` of all;
* `exportAll_sources`     an export reads in the store only, exactly if all hashes lead into it;
* `secret_exported`       what a hash with two dots leads to is exported.
-/

namespace MailBrowser
namespace Export

variable {files made : FileStore} {store dir : Path} {as : List Attachment} {hash : String}

/-! ## paths of contents -/

/-- the paths that tasks copy from -/
def sources (ts : List Task) : List Path := ts.filterMap fun t => t.copy?.map Prod.fst

theorem sources_tasksFrom (store : Path) (counts : NameCounts) (as : List Attachment) :
    sources (tasksFrom store counts as) = as.filterMap fun a => blobPath? store a.contentHash := by
  induction as generalizing counts with
  | nil => rfl
  | cons a as ih =>
    unfold sources at ih ⊢
    rw [tasksFrom, List.filterMap_cons, List.filterMap_cons, ih]
    unfold taskOf
    cases blobPath? store a.contentHash <;> rfl

/-- The hash is a path inside the store, or it never leads out of the store from the directory that
is named for its first two bytes. -/
def LeadsInward (store : Path) (hash : String) : Prop :=
  ∀ begun, twoBytes? hash = some begun →
    if Path.isAbsolute hash then Path.Within store hash
    else Path.staysBelow 0 (Path.components begun ++ Path.components hash) = true

theorem twoBytes?_begins {begun : String} (h : twoBytes? hash = some begun) :
    begun ≠ "" ∧ begun.toList <+: hash.toList := by
  unfold twoBytes? at h
  split at h
  · rename_i a r hcs
    rw [hcs]
    split at h
    · cases h
      simp
    · split at h
      · split at h
        · cases h
          simp
        · cases h
      · cases h
  · cases h

theorem within_blobPath?_iff {source : Path} (h : blobPath? store hash = some source) :
    Path.Within store source ↔ LeadsInward store hash := by
  obtain ⟨begun, hbegun, rfl⟩ := Option.map_eq_some_iff.1 h
  have hinward : LeadsInward store hash ↔ if Path.isAbsolute hash then Path.Within store hash
      else Path.staysBelow 0 (Path.components begun ++ Path.components hash) = true :=
    ⟨fun hl => hl begun hbegun, fun hl b hb => by
      obtain rfl := Option.some.inj (hbegun.symm.trans hb)
      exact hl⟩
  rw [hinward]
  cases ha : Path.isAbsolute hash with
  | true => rw [Path.join, if_pos ha, if_pos rfl]
  | false =>
    obtain ⟨hne, hbegins⟩ := twoBytes?_begins hbegun
    have hb : Path.isAbsolute begun = false := (Path.isAbsolute_of_begins hne hbegins).symm.trans ha
    rw [if_neg (by decide), Path.join_join store hb ha,
      Path.within_join_iff (Path.isAbsolute_join hb ha), Path.components_join begun ha]

theorem sources_within_iff (store : Path) (as : List Attachment) :
    (∀ p ∈ sources (tasks store as), Path.Within store p) ↔
      ∀ a ∈ as, LeadsInward store a.contentHash := by
  rw [tasks, sources_tasksFrom]
  simp only [List.mem_filterMap]
  constructor
  · intro h a ha begun hbegun
    have hsource : blobPath? store a.contentHash =
        some (Path.join (Path.join store begun) a.contentHash) := by
      rw [blobPath?, hbegun]
      rfl
    exact (within_blobPath?_iff hsource).1 (h _ ⟨a, ha, hsource⟩) begun hbegun
  · rintro h p ⟨a, ha, hp⟩
    exact (within_blobPath?_iff hp).2 (h a ha)

theorem ne_dots_of_mem_components {p : Path} (hs : '/' ∉ p.toList) (hd : '.' ∉ p.toList) :
    ∀ c ∈ Path.components p, c ≠ ".." := by
  intro c hc
  have hmem : c ∈ FileStore.partsOf p := List.mem_of_mem_filter hc
  rw [FileStore.partsOf_name hs, List.mem_singleton] at hmem
  rw [hmem]
  rintro rfl
  exact hd (by decide)

/-- So does every hash without slashes and dots. -/
theorem leadsInward_of_plain (store : Path) (hs : '/' ∉ hash.toList) (hd : '.' ∉ hash.toList) :
    LeadsInward store hash := by
  intro begun hbegun
  have hbegins := (twoBytes?_begins hbegun).2
  rw [Path.not_isAbsolute hs, if_neg (by decide)]
  refine Path.staysBelow_of_names (fun c hc => ?_) 0
  rcases List.mem_append.1 hc with hc | hc
  · exact ne_dots_of_mem_components (mt (hbegins.subset ·) hs) (mt (hbegins.subset ·) hd) c hc
  · exact ne_dots_of_mem_components hs hd c hc

/-! ## what becomes of the attachments -/

/-- The outcome is that of the attachment: it is turned down for a hash that is too short and for
nothing else, and copied from the path for its hash if the files let it. -/
inductive AccountsFor (store : Path) (a : Attachment) : Outcome → Prop where
  | noHash (h : blobPath? store a.contentHash = none) :
      AccountsFor store a (.failed a "missing content hash")
  | refused {source : Path} (h : blobPath? store a.contentHash = some source) (e : FileError) :
      AccountsFor store a (.failed a e.message)
  | copied {source : Path} (h : blobPath? store a.contentHash = some source) (name : String)
      (bytes : Nat) : AccountsFor store a (.copied ⟨a, source, name, bytes⟩)

theorem step_accounts (store dir : Path) (files : FileStore) (counts : NameCounts)
    (a : Attachment) : AccountsFor store a (step dir files (taskOf store counts a).1).2 := by
  unfold taskOf
  cases hb : blobPath? store a.contentHash with
  | none => exact .noHash hb
  | some source =>
    unfold step
    dsimp only
    split
    · exact .copied hb _ _
    · exact .refused hb _

theorem run_accounts (store dir : Path) (files : FileStore) (counts : NameCounts)
    (as : List Attachment) :
    List.Forall₂ (AccountsFor store) as (run dir files (tasksFrom store counts as)).2 := by
  induction as generalizing files counts with
  | nil => exact .nil
  | cons a as ih => exact .cons (step_accounts store dir files counts a) (ih _ _)

/-- What a copy was made of is still there. -/
theorem locate_source {ts : List Task} (hn : ∀ name ∈ names ts, Path.IsName name) {c : Copy}
    (hc : c ∈ copies (run dir files ts).2) :
    ∃ place, (run dir files ts).1.locate c.source = .ok place := by
  induction ts generalizing files with
  | nil => cases hc
  | cons t ts ih =>
    rcases run_cons_cases dir files hn with
      ⟨hfiles, hcopies⟩ | ⟨c', files', d, content, -, -, hp, hfiles, hcopies⟩
    · rw [hfiles]
      exact ih (isName_of_cons hn) (hcopies ▸ hc)
    · rw [hfiles]
      rcases List.mem_cons.1 (hcopies ▸ hc) with rfl | hc
      · obtain ⟨place, before, hplace, -⟩ := hp.source
        exact ⟨place, FileStore.locate_of_grows (hp.grows.trans (run_grows (isName_of_cons hn)))
          hplace⟩
      · exact ih (isName_of_cons hn) hc

theorem mem_sources_of_mem_copies {c : Copy} (hc : c ∈ copies (run dir made (tasks store as)).2) :
    c.source ∈ sources (tasks store as) := by
  obtain ⟨hmem, hsource⟩ := source_of_mem_copies hc
  rw [tasks, sources_tasksFrom]
  exact List.mem_filterMap.2 ⟨c.attachment, hmem, hsource⟩

/-- **An export reads in the store only, exactly if the hashes lead into it.**  No hash is turned
down for where it leads; if all lead into the store, every copy is made of what stands below it. -/
theorem exportAll_sources (store : Path) (as : List Attachment) :
    ((∀ p ∈ sources (tasks store as), Path.Within store p) ↔
      ∀ a ∈ as, LeadsInward store a.contentHash) ∧
    ∀ files made dir, files.makeDirs dir = .ok made →
      let done := run dir made (tasks store as)
      (exportAll files store dir as).1 = done.1 ∧
        List.Forall₂ (AccountsFor store) as done.2 ∧
        (∀ c ∈ copies done.2, c.source ∈ sources (tasks store as)) ∧
        ((∀ a ∈ as, LeadsInward store a.contentHash) → ∀ c ∈ copies done.2,
          ∃ d rest, done.1.baseOf store = .ok d ∧ done.1.locate c.source = .ok (d ++ rest)) := by
  refine ⟨sources_within_iff store as, fun files made dir hmade => ?_⟩
  dsimp only
  refine ⟨by rw [exportAll_eq hmade], run_accounts store dir made [] as,
    fun c hc => mem_sources_of_mem_copies hc, fun hinward c hc => ?_⟩
  obtain ⟨place, hplace⟩ := locate_source (isName_of_mem_names_tasks store as) hc
  obtain ⟨d, rest, hd, rfl⟩ := FileStore.locate_of_within
    ((sources_within_iff store as).2 hinward _ (mem_sources_of_mem_copies hc)) hplace
  exact ⟨d, rest, hd, hplace⟩

theorem exportAll_sources_of_one :
    ∃ made, threeBlobs.makeDirs "out" = .ok made ∧
      let done := run "out" made (tasks "blobs" [attached "a.pdf" "aa1"])
      (copies done.2).length = 1 ∧ ∀ c ∈ copies done.2, ∃ d rest,
        done.1.baseOf "blobs" = .ok d ∧ done.1.locate c.source = .ok (d ++ rest) := by
  have hcopy : (threeBlobs.makeDirs "out").toOption.map (fun made =>
      (copies (run "out" made (tasks "blobs" [attached "a.pdf" "aa1"])).2).length) = some 1 := by
    decide +kernel
  obtain ⟨made, hmade, hcopy⟩ := Option.map_eq_some_iff.1 hcopy
  obtain ⟨-, hall⟩ := exportAll_sources "blobs" [attached "a.pdf" "aa1"]
  obtain ⟨-, -, -, hinside⟩ := hall threeBlobs made "out" (ok_of_toOption hmade)
  have hinward : ∀ a ∈ [attached "a.pdf" "aa1"], LeadsInward "blobs" a.contentHash := by
    intro a ha
    rw [List.mem_singleton.1 ha]
    exact leadsInward_of_plain "blobs" (by decide) (by decide)
  exact ⟨made, ok_of_toOption hmade, hcopy, hinside hinward⟩

/-- a store without contents, and a file beside it -/
def besideStore : FileStore where
  nodes := [
    (["home"], .dir), (["home", "data"], .dir), (["home", "data", "attachments"], .dir),
    (["home", "secret"], .file ⟨#[7]⟩)]

/-- **A hash with two dots leads out of the store, and what it leads to is exported.** -/
theorem secret_exported :
    sources (tasks "data/attachments" [attached "x.txt" "../secret"]) =
      ["data/attachments/../../secret"] ∧
    ¬ Path.Within "data/attachments" "data/attachments/../../secret" ∧
    ∃ files' report, exportAll besideStore "data/attachments" "out"
        [attached "x.txt" "../secret"] = (files', .ok report) ∧
      report.exported = 1 ∧ report.errors = [] ∧ besideStore.read "secret" = .ok ⟨#[7]⟩ ∧
        files'.read "out/x.txt" = .ok ⟨#[7]⟩ := by
  refine ⟨by decide, ?_, ?_⟩
  · have hpath : "data/attachments/../../secret" = Path.join "data/attachments" "../../secret" := by
      decide
    rw [hpath, Path.within_join_iff (by decide)]
    decide
  · generalize hr : exportAll besideStore "data/attachments" "out"
      [attached "x.txt" "../secret"] = r
    have hreport : r.2.toOption.map (fun r => (r.exported, r.errors)) = some (1, []) := by
      rw [← hr]
      decide +kernel
    obtain ⟨report, hok, hcounts⟩ := Option.map_eq_some_iff.1 hreport
    obtain ⟨hexported, herrors⟩ := Prod.mk.inj hcounts
    have hbefore : (besideStore.read "secret").toOption = some ⟨#[7]⟩ := by decide +kernel
    have hafter : (r.1.read "out/x.txt").toOption = some ⟨#[7]⟩ := by
      rw [← hr]
      decide +kernel
    exact ⟨r.1, report, Prod.ext rfl (ok_of_toOption hok), hexported, herrors,
      ok_of_toOption hbefore, ok_of_toOption hafter⟩

end Export
end MailBrowser
