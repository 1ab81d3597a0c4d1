import MailBrowser.Proofs.Deletion.Saving
import MailBrowser.Proofs.Files.Endings

/-!
# The shelf after many batches

Batches that are saved one after another in an empty shelf stand there together, unless one has the
name of an earlier one, which it replaces.

* `saveAll`                  manifests saved in their order;
* `Manifest.IsNew`           a batch as it is made, `Standing` one that none replaces;
* `Stocked`                  what the shelf holds, kept by every further save;
* `listManifests_saveAll`    the list of the shelf is that of the batches that stand;
* `two_batches_one_second`   of two batches of one second the first is lost.
-/

namespace MailBrowser
open Text

variable {files files' : FileStore} {base p : Path} {m k : Manifest} {ms : List Manifest}

def saveAll (files : FileStore) (base : Path) (ms : List Manifest) :
    Except DeletionError FileStore :=
  ms.foldlM (fun files m => (saveManifest files base m).map Prod.fst) files

/-- a batch that has been made and not been changed -/
def Manifest.IsNew (m : Manifest) : Prop :=
  m = .make m.description m.providerIds m.criteria m.createdBy m.createdAt

namespace Manifest.IsNew

theorem id_eq (h : m.IsNew) : m.id = batchName m.createdAt m.description := congrArg Manifest.id h

theorem status_eq (h : m.IsNew) : m.status = .pending := congrArg Manifest.status h

theorem isName_fileName (h : m.IsNew) : Path.IsName m.fileName :=
  isName_of_nameChars fun _ hc => nameChar_of_mem_batchName (h.id_eq ▸ hc)

theorem version_mem (h : m.IsNew) : 0 ≤ m.version ∧ m.version ≤ versionLimit := by
  rw [h]
  exact version_make _ _ _ _ _

theorem id_eq_iff (hm : m.IsNew) (hk : k.IsNew) : m.id = k.id ↔
    m.createdAt.SameSecond k.createdAt ∧ batchSuffix m.description = batchSuffix k.description := by
  rw [hm.id_eq, hk.id_eq]
  exact batchName_eq_iff

end Manifest.IsNew

theorem Manifest.fileName_eq_iff : m.fileName = k.fileName ↔ m.id = k.id := by
  unfold fileName
  exact String.append_left_inj _

/-- No batch of the same name comes later. -/
def Standing (ms : List Manifest) (m : Manifest) : Prop :=
  ∃ before after, ms = before ++ m :: after ∧ ∀ k ∈ after, k.id ≠ m.id

/-- the last batch of a file name -/
def lastNamed? (ms : List Manifest) (name : String) : Option Manifest :=
  ms.reverse.find? fun m => m.fileName == name

theorem lastNamed?_append (ms : List Manifest) (m : Manifest) (name : String) :
    lastNamed? (ms ++ [m]) name = if m.fileName = name then some m else lastNamed? ms name := by
  unfold lastNamed?
  rw [List.reverse_append, List.reverse_singleton, List.singleton_append, List.find?_cons]
  by_cases h : m.fileName = name
  · rw [if_pos h, beq_iff_eq.2 h]
  · rw [if_neg h, beq_eq_false_iff_ne.2 h]

theorem fileName_of_lastNamed? {name : String} (h : lastNamed? ms name = some m) :
    m.fileName = name := by
  simpa using List.find?_some h

theorem mem_of_lastNamed? {name : String} (h : lastNamed? ms name = some m) : m ∈ ms :=
  List.mem_reverse.1 (List.mem_of_find?_eq_some h)

theorem lastNamed?_eq_some_iff : lastNamed? ms m.fileName = some m ↔ Standing ms m := by
  unfold lastNamed? Standing
  rw [List.find?_eq_some_iff_append]
  simp only [beq_self_eq_true, true_and, Bool.not_eq_eq_eq_not, Bool.not_true, beq_eq_false_iff_ne,
    ne_eq, Manifest.fileName_eq_iff]
  constructor
  · rintro ⟨later, earlier, h, hne⟩
    refine ⟨earlier.reverse, later.reverse, ?_, fun k hk => hne k (List.mem_reverse.1 hk)⟩
    rw [← List.reverse_reverse ms, h]
    simp
  · rintro ⟨before, after, rfl, hne⟩
    exact ⟨after.reverse, before.reverse, by simp, fun k hk => hne k (List.mem_reverse.1 hk)⟩

/-! ## what the shelf holds -/

/-- The shelf at `d` has one file for each name, that of the last batch of the name. -/
structure Stocked (files : FileStore) (base : Path) (d : Place) (ms : List Manifest) : Prop where
  shelf : files.locate (shelfDir base .pending) = .ok d
  dir : files.nodeAt? d = some .dir
  node : ∀ name, files.nodeAt? (d ++ [name]) =
    (lastNamed? ms name).map fun m => .file m.text.toUTF8
  path : ∀ m ∈ ms, files.locate (manifestPath base m) = .ok (d ++ [m.fileName])

namespace Stocked

variable {d : Place}

theorem isDir (h : Stocked files base d ms) : files.isDir (shelfDir base .pending) = true :=
  FileStore.isDir_iff.2 ⟨d, h.shelf, h.dir⟩

/-- **A further batch stands on the shelf.** -/
theorem save (h : Stocked files base d ms) (hm : m.IsNew)
    (hs : saveManifest files base m = .ok (files', p)) : Stocked files' base d (ms ++ [m]) := by
  obtain ⟨-, made, d', hs⟩ := saveManifest_eq_ok hm.isName_fileName hs
  -- the shelf is there already
  have hdirs := hs.dirs
  rw [hm.status_eq, FileStore.makeDirs_of_isDir h.isDir] at hdirs
  obtain rfl := Except.ok.inj hdirs
  have hshelf := hs.shelf
  rw [hm.status_eq, h.shelf] at hshelf
  obtain rfl := Except.ok.inj hshelf
  refine ⟨FileStore.locate_of_grows hs.grows h.shelf, hs.grows.dirs d h.dir, fun name => ?_, ?_⟩
  · rw [hs.written, FileStore.nodeAt?_setNode _ (FileStore.ne_nil_of_not_dir hs.free), h.node,
      lastNamed?_append]
    by_cases hname : m.fileName = name
    · rw [if_pos (by rw [hname]), if_pos hname]
      rfl
    · rw [if_neg fun e => hname (List.cons.inj (List.append_cancel_left e)).1.symm, if_neg hname]
  · intro k hk
    refine FileStore.locate_of_grows hs.grows ?_
    rcases List.mem_append.1 hk with hk | hk
    · exact h.path k hk
    · rw [List.mem_singleton.1 hk]
      exact hs.path

theorem saveAll (h : Stocked files base d ms) {more : List Manifest} (hnew : ∀ m ∈ more, m.IsNew)
    (hs : saveAll files base more = .ok files') : Stocked files' base d (ms ++ more) := by
  induction more generalizing files ms with
  | nil =>
    obtain rfl := Except.ok.inj hs
    rwa [List.append_nil]
  | cons m more ih =>
    unfold MailBrowser.saveAll at hs
    rw [List.foldlM_cons] at hs
    cases hr : saveManifest files base m with
    | error e =>
      rw [hr] at hs
      cases hs
    | ok r =>
      rw [hr] at hs
      have hstep := h.save (hnew m List.mem_cons_self) hr
      have hrest := ih hstep (fun k hk => hnew k (List.mem_cons_of_mem m hk)) hs
      rwa [List.append_assoc] at hrest

/-- The shelf has the file names of the batches. -/
theorem mem_namesIn_iff (h : Stocked files base d ms) {name : String} :
    name ∈ files.namesIn d ↔ ∃ m, lastNamed? ms name = some m := by
  rw [FileStore.mem_namesIn, h.node, ne_eq, Option.map_eq_none_iff, ← ne_eq,
    Option.ne_none_iff_exists']

/-- Each file of the shelf is read as the batch that it was written from. -/
theorem load_eq_ok (h : Stocked files base d ms) (hnew : ∀ m ∈ ms, m.IsNew) {name : String}
    (hm : lastNamed? ms name = some m) :
    loadManifest files (Path.join (shelfDir base .pending) name) = .ok m := by
  have hmem := mem_of_lastNamed? hm
  have hpath : manifestPath base m = Path.join (shelfDir base .pending) name := by
    rw [manifestPath, (hnew m hmem).status_eq, ← fileName_of_lastNamed? hm]
    rfl
  refine loadManifest_of_fileAt? (hnew m hmem).version_mem (hpath ▸ h.path m hmem) ?_
  rw [FileStore.fileAt?_eq_some_iff, h.node, fileName_of_lastNamed? hm, hm]
  rfl

end Stocked

/-! ## the list of the shelf -/

/-- Where every member of a list has a result, the results are listed. -/
theorem mapM_eq_ok {ε α β : Type} {f : α → Except ε β} {l : List α}
    (h : ∀ a ∈ l, ∃ b, f a = .ok b) :
    ∃ bs, l.mapM f = .ok bs ∧ ∀ b, b ∈ bs ↔ ∃ a ∈ l, f a = .ok b := by
  induction l with
  | nil => exact ⟨[], rfl, by simp⟩
  | cons a l ih =>
    obtain ⟨b, hb⟩ := h a List.mem_cons_self
    obtain ⟨bs, hbs, hmem⟩ := ih fun a' ha' => h a' (List.mem_cons_of_mem a ha')
    refine ⟨b :: bs, ?_, fun b' => ?_⟩
    · rw [List.mapM_cons, hb, hbs]
      rfl
    · simp [hmem, hb, eq_comm]

theorem extensionOf?_json {s : String} (hs : s ≠ "") :
    Path.extensionOf? (s ++ ".json") = some "json" := by
  have hcut : Path.cutAtDot (s ++ ".json") =
      (.ofList s.toList, some (.ofList ['j', 's', 'o', 'n'])) := by
    refine Path.cutAtDot_of_eq String.toList_append (by decide) (by simpa using hs) fun e => ?_
    have hlen := congrArg (fun s => s.toList.length) e
    simp at hlen
  rw [Path.extensionOf?, hcut]

theorem batchName_ne_empty (t : Instant) (description : String) : batchName t description ≠ "" := by
  intro h
  have hchars := congrArg String.toList h
  simp [batchName] at hchars

namespace Stocked

variable {d : Place}

/-- **The list of the shelf is that of the batches that stand.** -/
theorem list_eq_ok (h : Stocked files base d ms) (hnew : ∀ m ∈ ms, m.IsNew) :
    ∃ l, listManifests files base .pending = .ok l ∧ ∀ m, m ∈ l ↔ Standing ms m := by
  have hlookup : files.lookup (shelfDir base .pending) = .ok (d, .dir) :=
    FileStore.lookup_eq_ok_iff.2 ⟨h.shelf, h.dir⟩
  have hentries := FileStore.entries_eq_ok_iff.2 ⟨d, h.shelf, h.dir, rfl⟩
  have hload : ∀ name ∈ (files.namesIn d).mergeSort fun a b => decide (a ≤ b), ∃ m,
      loadManifest files (Path.join (shelfDir base .pending) name) = .ok m := by
    intro name hname
    obtain ⟨m, hm⟩ := h.mem_namesIn_iff.1 (List.mem_mergeSort.1 hname)
    exact ⟨m, h.load_eq_ok hnew hm⟩
  have hjson : ((files.namesIn d).mergeSort fun a b => decide (a ≤ b)).filter
      (fun n => Path.extensionOf? n == some "json") =
      (files.namesIn d).mergeSort fun a b => decide (a ≤ b) := by
    refine List.filter_eq_self.2 fun name hname => ?_
    obtain ⟨m, hm⟩ := h.mem_namesIn_iff.1 (List.mem_mergeSort.1 hname)
    have hid : m.id ≠ "" := (hnew m (mem_of_lastNamed? hm)).id_eq ▸ batchName_ne_empty _ _
    rw [← fileName_of_lastNamed? hm, Manifest.fileName, extensionOf?_json hid]
    rfl
  obtain ⟨l, hl, hmem⟩ := mapM_eq_ok hload
  refine ⟨l.mergeSort Manifest.shelvedBefore, ?_, fun m => ?_⟩
  · simp only [listManifests, FileStore.exists_, hlookup, hentries, hjson, hl, Except.isOk,
      Except.toBool, if_true]
    rfl
  · rw [List.mem_mergeSort, hmem, ← lastNamed?_eq_some_iff]
    constructor
    · rintro ⟨name, hname, hm⟩
      obtain ⟨k, hk⟩ := h.mem_namesIn_iff.1 (List.mem_mergeSort.1 hname)
      rw [h.load_eq_ok hnew hk] at hm
      obtain rfl := Except.ok.inj hm
      rwa [fileName_of_lastNamed? hk]
    · intro hm
      exact ⟨m.fileName, List.mem_mergeSort.2 (h.mem_namesIn_iff.2 ⟨m, hm⟩), h.load_eq_ok hnew hm⟩

end Stocked

/-! ## from an empty shelf -/

theorem exists_stocked_nil (h : files.entries (shelfDir base .pending) = .ok []) :
    ∃ d, Stocked files base d [] := by
  obtain ⟨d, hd, hdir, hnone⟩ := FileStore.entries_eq_nil_iff.1 h
  exact ⟨d, hd, hdir, hnone, fun m hm => absurd hm List.not_mem_nil⟩

/-- A shelf that holds nothing lists nothing, also if it is still to be made. -/
theorem listManifests_of_holdsNothing (h : files.HoldsNothing (shelfDir base .pending)) :
    listManifests files base .pending = .ok [] := by
  obtain ⟨made, hmade, hentries⟩ := h
  cases hl : files.lookup (shelfDir base .pending) with
  | error e =>
    simp only [listManifests, FileStore.exists_, hl]
    rfl
  | ok r =>
    obtain ⟨q, n⟩ := r
    obtain ⟨hq, hn⟩ := FileStore.lookup_eq_ok_iff.1 hl
    have honly := FileStore.makeDirs_onlyDirs hmade
    obtain ⟨d, hd, hdir, -⟩ := FileStore.entries_eq_ok_iff.1 hentries
    rw [FileStore.locate_of_grows honly.grows hq] at hd
    obtain rfl := Except.ok.inj hd
    have hn : files.nodeAt? q = some .dir := by
      rcases honly.node q with hsame | ⟨hnone, -⟩
      · rw [← hsame, hdir]
      · rw [hnone] at hn
        cases hn
    rw [FileStore.makeDirs_of_isDir (FileStore.isDir_iff.2 ⟨q, hq, hn⟩)] at hmade
    obtain rfl := Except.ok.inj hmade
    obtain ⟨d, hs⟩ := exists_stocked_nil hentries
    obtain ⟨l, hlist, hmem⟩ := hs.list_eq_ok fun m hm => absurd hm List.not_mem_nil
    have hnil : l = [] := by
      refine List.eq_nil_iff_forall_not_mem.2 fun m hm => ?_
      obtain ⟨before, after, h, -⟩ := (hmem m).1 hm
      simp at h
    rw [hlist, hnil]

theorem saveManifest_of_makeDirs {made : FileStore} (hm : m.IsNew)
    (hmade : files.makeDirs (shelfDir base .pending) = .ok made)
    (hdir : made.isDir (shelfDir base .pending) = true) :
    saveManifest files base m = saveManifest made base m := by
  unfold saveManifest
  rw [hm.status_eq, hmade, FileStore.makeDirs_of_isDir hdir]

theorem list_saveAll (hnew : ∀ m ∈ ms, m.IsNew)
    (hempty : files.HoldsNothing (shelfDir base .pending))
    (h : saveAll files base ms = .ok files') :
    ∃ l, listManifests files' base .pending = .ok l ∧ ∀ m, m ∈ l ↔ Standing ms m := by
  cases ms with
  | nil =>
    obtain rfl := Except.ok.inj h
    refine ⟨[], listManifests_of_holdsNothing hempty, fun m => ?_⟩
    simp [Standing]
  | cons m ms =>
    obtain ⟨made, hmade, hentries⟩ := hempty
    obtain ⟨d, hs⟩ := exists_stocked_nil hentries
    have hmade : saveAll made base (m :: ms) = .ok files' := by
      rw [← h]
      unfold saveAll
      rw [List.foldlM_cons, List.foldlM_cons,
        saveManifest_of_makeDirs (hnew m List.mem_cons_self) hmade hs.isDir]
    exact (hs.saveAll hnew hmade).list_eq_ok hnew

theorem standing_all_iff :
    (∀ m ∈ ms, Standing ms m) ↔ ∀ m ∈ ms, ∀ k ∈ ms, m.id = k.id → m = k := by
  constructor
  · intro h m hm k hk hid
    have hfirst := lastNamed?_eq_some_iff.2 (h m hm)
    rw [Manifest.fileName_eq_iff.2 hid, lastNamed?_eq_some_iff.2 (h k hk)] at hfirst
    exact (Option.some.inj hfirst).symm
  · intro h m hm
    cases hl : lastNamed? ms m.fileName with
    | none =>
      have hnone := List.find?_eq_none.1 hl m (List.mem_reverse.2 hm)
      simp at hnone
    | some k =>
      have hid := Manifest.fileName_eq_iff.1 (fileName_of_lastNamed? hl)
      obtain rfl := h k (mem_of_lastNamed? hl) m hm hid
      exact lastNamed?_eq_some_iff.1 hl

/-- **No batch disappears exactly if no two different ones are made in one second with the same
left of their descriptions.**  What the shelf lists are the batches that none of the same name
follows. -/
theorem listManifests_saveAll (hnew : ∀ m ∈ ms, m.IsNew)
    (hempty : files.HoldsNothing (shelfDir base .pending))
    (h : saveAll files base ms = .ok files') :
    ∃ l, listManifests files' base .pending = .ok l ∧ (∀ m, m ∈ l ↔ Standing ms m) ∧
      ((∀ m ∈ ms, m ∈ l) ↔ ∀ m ∈ ms, ∀ k ∈ ms, m.createdAt.SameSecond k.createdAt →
        batchSuffix m.description = batchSuffix k.description → m = k) := by
  obtain ⟨l, hl, hmem⟩ := list_saveAll hnew hempty h
  refine ⟨l, hl, hmem, ?_⟩
  simp only [hmem, standing_all_iff]
  constructor
  · intro hid m hm k hk hs hd
    exact hid m hm k hk (((hnew m hm).id_eq_iff (hnew k hk)).2 ⟨hs, hd⟩)
  · intro hall m hm k hk hid
    obtain ⟨hs, hd⟩ := ((hnew m hm).id_eq_iff (hnew k hk)).1 hid
    exact hall m hm k hk hs hd

/-! ## two batches of one second -/

/-- one message of a list, marked and staged for deletion -/
def oneMarked (id : String) (at_ : Instant) : Manifest :=
  .make "messages-multiple(1)" [id] {} "tui" at_

theorem isNew_of_mem_pair (id id' : String) (t t' : Instant) :
    ∀ m ∈ [oneMarked id t, oneMarked id' t'], m.IsNew := by
  simp only [List.mem_cons, List.not_mem_nil, or_false]
  rintro m (rfl | rfl)
  · rfl
  · rfl

theorem holdsNothing_fresh : FileStore.HoldsNothing .fresh (shelfDir "deletions" .pending) := by
  decide +kernel

theorem two_seconds_both_listed :
    ∃ files' l, saveAll .fresh "deletions"
        [oneMarked "a" .epoch, oneMarked "b" (.atSecond 1)] = .ok files' ∧
      listManifests files' "deletions" .pending = .ok l ∧
        oneMarked "a" .epoch ∈ l ∧ oneMarked "b" (.atSecond 1) ∈ l := by
  have hok : (saveAll .fresh "deletions"
      [oneMarked "a" .epoch, oneMarked "b" (.atSecond 1)]).isOk = true := by decide +kernel
  obtain ⟨files', h⟩ := exists_ok_of_isOk hok
  obtain ⟨l, hl, -, hall⟩ :=
    listManifests_saveAll (isNew_of_mem_pair _ _ _ _) holdsNothing_fresh h
  have hin := hall.2 (by decide +kernel)
  exact ⟨files', l, h, hl, hin _ (by simp), hin _ (by simp)⟩

/-- **Of two batches of one message each, staged within one second, the first is lost.** -/
theorem two_batches_one_second :
    oneMarked "a" .epoch ≠ oneMarked "b" .epoch ∧
      ∃ files' l, saveAll .fresh "deletions"
          [oneMarked "a" .epoch, oneMarked "b" .epoch] = .ok files' ∧
        listManifests files' "deletions" .pending = .ok l ∧ oneMarked "a" .epoch ∉ l := by
  refine ⟨by decide, ?_⟩
  have hok : (saveAll .fresh "deletions"
      [oneMarked "a" .epoch, oneMarked "b" .epoch]).isOk = true := by decide +kernel
  obtain ⟨files', h⟩ := exists_ok_of_isOk hok
  obtain ⟨l, hl, hmem⟩ := list_saveAll (isNew_of_mem_pair _ _ _ _) holdsNothing_fresh h
  refine ⟨files', l, h, hl, fun hin => ?_⟩
  have hlast := lastNamed?_eq_some_iff.2 ((hmem _).1 hin)
  exact absurd hlast (by decide +kernel)

end MailBrowser
