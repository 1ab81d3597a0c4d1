import MailBrowser.Deletion.Shelf
import MailBrowser.Proofs.Deletion.BatchNames
import MailBrowser.Proofs.Deletion.FileForm
import MailBrowser.Proofs.Files.Operations

/-!
# Saving manifests

A manifest that is saved is one file more on the shelf of its status, and what is read from that
file is the manifest.

* `Shelving`             what saving a manifest comes to, `saveManifest_eq_ok`;
* `loadManifest_of_fileAt?`   a manifest read from its file;
* `saveManifest_make`    the file of a new manifest.
-/

namespace MailBrowser
open Text

def Manifest.fileName (m : Manifest) : String := m.id ++ ".json"

variable {files files' : FileStore} {base p : Path} {m : Manifest}

/-- `made` is the store with the shelf at `d`, and `files'` holds the manifest besides. -/
structure Shelving (files : FileStore) (base : Path) (m : Manifest) (files' made : FileStore)
    (d : Place) : Prop where
  dirs : files.makeDirs (shelfDir base m.status) = .ok made
  shelf : made.locate (shelfDir base m.status) = .ok d
  dir : made.nodeAt? d = some .dir
  path : made.locate (manifestPath base m) = .ok (d ++ [m.fileName])
  free : made.nodeAt? (d ++ [m.fileName]) ≠ some .dir
  written : files' = made.setNode (d ++ [m.fileName]) (.file m.text.toUTF8)

theorem BatchStatus.isName_name (status : BatchStatus) : Path.IsName status.name := by
  cases status <;> exact ⟨by decide, by decide, by decide, by decide⟩

/-- **Saving a manifest makes its shelf and puts one file there.** -/
theorem saveManifest_eq_ok (hn : Path.IsName m.fileName)
    (h : saveManifest files base m = .ok (files', p)) :
    p = manifestPath base m ∧ ∃ made d, Shelving files base m files' made d := by
  unfold saveManifest at h
  split at h
  · cases h
  · rename_i made hmade
    split at h
    · cases h
    · rename_i written hwrite
      obtain ⟨rfl, rfl⟩ := Prod.mk.inj (Except.ok.inj h)
      obtain ⟨q, hq, hfree, rfl⟩ := FileStore.write_eq_ok_iff.1 hwrite
      obtain ⟨d, hd, hdir, rfl⟩ := FileStore.locate_join hn hq
      have hshelf := FileStore.locate_of_baseOf (Path.join_ne_empty base m.status.isName_name) hd
      exact ⟨rfl, made, d, hmade, hshelf, hdir, hq, hfree, rfl⟩

namespace Shelving

variable {made : FileStore} {d : Place}

theorem grows (h : Shelving files base m files' made d) : FileStore.Grows made files' :=
  h.written ▸ FileStore.grows_setNode h.free _

theorem fileAt? (h : Shelving files base m files' made d) (q : Place) :
    files'.fileAt? q = if q = d ++ [m.fileName] then some m.text.toUTF8 else files.fileAt? q := by
  rw [h.written, FileStore.fileAt?_setNode h.free,
    (FileStore.makeDirs_onlyDirs h.dirs).fileAt?]

end Shelving

theorem loadManifest_of_fileAt? {q : Place} (hv : 0 ≤ m.version ∧ m.version ≤ Manifest.versionLimit)
    (hq : files.locate p = .ok q) (hf : files.fileAt? q = some m.text.toUTF8) :
    loadManifest files p = .ok m := by
  have hread : files.read p = .ok m.text.toUTF8 := FileStore.read_eq_ok_iff.2 ⟨q, hq, hf⟩
  have htext : files.readText p = .ok m.text := by
    unfold FileStore.readText
    rw [hread, Except.bind, FileStore.decodeText_toUTF8]
  simp only [loadManifest, htext, Manifest.read?_text hv]

/-! ## new manifests -/

section Make

variable (description : String) (providerIds : List String) (criteria : Criteria)
  (createdBy : String) (createdAt : Instant) (status : BatchStatus)

theorem isName_fileName_make :
    Path.IsName (Manifest.make description providerIds criteria createdBy createdAt).fileName :=
  isName_of_nameChars fun _ hc => nameChar_of_mem_batchName hc

theorem version_make :
    0 ≤ (Manifest.make description providerIds criteria createdBy createdAt).version ∧
      (Manifest.make description providerIds criteria createdBy createdAt).version ≤
        Manifest.versionLimit :=
  (by decide : (0 : Int) ≤ 1 ∧ 1 ≤ Manifest.versionLimit)

/-- **A new manifest of any status is saved as one file of the shelf of its status, and read back
as it was.**  Of all other places the files are what they were. -/
theorem saveManifest_make
    (h : saveManifest files base { Manifest.make description providerIds criteria createdBy
      createdAt with status } = .ok (files', p)) :
    let m := { Manifest.make description providerIds criteria createdBy createdAt with status }
    (∀ c ∈ m.id.toList, NameChar c) ∧
      p = Path.join (shelfDir base status) (m.id ++ ".json") ∧
      (∃ d, files'.locate (shelfDir base status) = .ok d ∧
        files'.locate p = .ok (d ++ [m.id ++ ".json"]) ∧
        ∀ q, files'.fileAt? q =
          if q = d ++ [m.id ++ ".json"] then some m.text.toUTF8 else files.fileAt? q) ∧
      loadManifest files' p = .ok m := by
  intro m
  have hn : Path.IsName m.fileName :=
    isName_fileName_make description providerIds criteria createdBy createdAt
  obtain ⟨hp, made, d, hs⟩ := saveManifest_eq_ok hn h
  have hpath : files'.locate p = .ok (d ++ [m.fileName]) := by
    rw [hp]
    exact FileStore.locate_of_grows hs.grows hs.path
  refine ⟨fun c hc => nameChar_of_mem_batchName hc, hp,
    ⟨d, FileStore.locate_of_grows hs.grows hs.shelf, hpath, hs.fileAt?⟩, ?_⟩
  refine loadManifest_of_fileAt? (version_make description providerIds criteria createdBy createdAt)
    hpath ?_
  rw [hs.fileAt?, if_pos rfl]

end Make

/-- text outside ASCII and text that is escaped, an empty account and an empty creator -/
theorem saveManifest_make_fresh :
    let m := { Manifest.make "Größe \"9\" …" ["a", "b\n"]
      { senders := ["ä"], account := some "" } "" .epoch with status := .failed }
    ∃ files' p, saveManifest .fresh "data" m = .ok (files', p) ∧ loadManifest files' p = .ok m := by
  intro m
  have hok : (saveManifest .fresh "data" m).isOk = true := by decide +kernel
  obtain ⟨⟨files', p⟩, h⟩ := exists_ok_of_isOk hok
  have hall := saveManifest_make "Größe \"9\" …" ["a", "b\n"]
    { senders := ["ä"], account := some "" } "" .epoch .failed h
  exact ⟨files', p, h, hall.2.2.2⟩

end MailBrowser
