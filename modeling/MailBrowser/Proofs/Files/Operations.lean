import MailBrowser.Proofs.Files.Places

/-!
# What file operations come to

A file is put at one place, directories are made where nothing stood, and what a directory lists
are the names of what stands in it.

* `FileStore.fileAt?`        the content of the file at a place;
* `write_eq_ok_iff`, `read_eq_ok_iff`, `copy_eq_ok`   a file written, read and copied;
* `OnlyDirs`                 directories have been made and nothing else, `makeDirs_onlyDirs`;
* `makeDirs_of_isDir`        a directory that is there is left as it is;
* `namesIn`                  the names in a directory, `entries_eq_ok_iff`;
* `HoldsNothing`             a directory that can be made and is empty then.
-/

namespace MailBrowser
open Text

/-! ## results -/

theorem exists_ok_of_isOk {ε α : Type} {r : Except ε α} (h : r.isOk = true) : ∃ a, r = .ok a := by
  cases r with
  | error e => cases h
  | ok a => exact ⟨a, rfl⟩

theorem ok_of_toOption {ε α : Type} {r : Except ε α} {a : α} (h : r.toOption = some a) :
    r = .ok a := by
  cases r with
  | error e => cases h
  | ok b => exact congrArg Except.ok (Option.some.inj h)

namespace FileStore

variable {s t u : FileStore} {p : Path} {q d : Place} {c : ByteArray}

/-- the content of a file -/
def fileAt? (s : FileStore) (q : Place) : Option ByteArray :=
  match s.nodeAt? q with
  | some (.file c) => some c
  | _ => none

theorem fileAt?_eq_some_iff : s.fileAt? q = some c ↔ s.nodeAt? q = some (.file c) := by
  unfold fileAt?
  cases s.nodeAt? q with
  | none => simp
  | some n => cases n <;> simp

theorem fileAt?_setNode (hq : s.nodeAt? q ≠ some .dir) (c : ByteArray) (r : Place) :
    (s.setNode q (.file c)).fileAt? r = if r = q then some c else s.fileAt? r := by
  unfold fileAt?
  rw [nodeAt?_setNode s (ne_nil_of_not_dir hq)]
  by_cases hr : r = q
  · rw [if_pos hr, if_pos hr]
  · rw [if_neg hr, if_neg hr]

/-! ## files -/

theorem lookup_eq_ok_iff {n : Node} :
    s.lookup p = .ok (q, n) ↔ s.locate p = .ok q ∧ s.nodeAt? q = some n := by
  unfold lookup
  cases s.locate p with
  | error e => simp [bind, Except.bind]
  | ok q' =>
    simp only [bind, Except.bind]
    cases hn : s.nodeAt? q' with
    | none =>
      simp only [reduceCtorEq, Except.ok.injEq, false_iff, not_and]
      rintro rfl
      simp [hn]
    | some n' =>
      simp only [Except.ok.injEq, Prod.mk.injEq]
      constructor
      · rintro ⟨rfl, rfl⟩
        exact ⟨rfl, hn⟩
      · rintro ⟨rfl, h⟩
        exact ⟨rfl, Option.some.inj (hn.symm.trans h)⟩

theorem write_eq_ok_iff : s.write p c = .ok t ↔
    ∃ q, s.locate p = .ok q ∧ s.nodeAt? q ≠ some .dir ∧ t = s.setNode q (.file c) := by
  unfold write
  cases s.locate p with
  | error e => simp [bind, Except.bind]
  | ok q =>
    simp only [bind, Except.bind, Except.ok.injEq, exists_eq_left']
    split
    · rename_i hd
      simp [hd]
    · rename_i hd
      rw [Except.ok.injEq, eq_comm]
      exact ⟨fun h => ⟨hd, h⟩, And.right⟩

theorem read_eq_ok_iff : s.read p = .ok c ↔
    ∃ q, s.locate p = .ok q ∧ s.fileAt? q = some c := by
  simp only [fileAt?_eq_some_iff, ← lookup_eq_ok_iff]
  unfold read
  cases s.lookup p with
  | error e => simp [bind, Except.bind]
  | ok r =>
    obtain ⟨q, n⟩ := r
    cases n with
    | dir => simp [bind, Except.bind]
    | file c' => simp [bind, Except.bind]

/-- A file where nothing stood leaves what can be read. -/
theorem read_setNode (hq : s.nodeAt? q = none) (c : ByteArray) {c' : ByteArray}
    (h : s.read p = .ok c') : (s.setNode q (.file c)).read p = .ok c' := by
  have hfree : s.nodeAt? q ≠ some .dir := by simp [hq]
  obtain ⟨place, hplace, hc'⟩ := read_eq_ok_iff.1 h
  refine read_eq_ok_iff.2 ⟨place, locate_of_grows (grows_setNode hfree _) hplace, ?_⟩
  rw [fileAt?_setNode hfree, if_neg, hc']
  rintro rfl
  rw [fileAt?_eq_some_iff, hq] at hc'
  cases hc'

/-- **A copy puts a file at the place of the target.**  Its content is that of the source, unless
both are the same file. -/
theorem copy_eq_ok {src dst : Path} {n : Nat} (h : s.copy src dst = .ok (t, n)) :
    ∃ from_ q c c', s.locate src = .ok from_ ∧ s.fileAt? from_ = some c ∧ s.locate dst = .ok q ∧
      s.nodeAt? q ≠ some .dir ∧ t = s.setNode q (.file c') ∧ (from_ ≠ q → c' = c) := by
  unfold copy at h
  cases hl : s.lookup src with
  | error e =>
    rw [hl] at h
    cases h
  | ok r =>
    obtain ⟨from_, n⟩ := r
    obtain ⟨hfrom, hnode⟩ := lookup_eq_ok_iff.1 hl
    cases n with
    | dir =>
      rw [hl] at h
      cases h
    | file c =>
      simp only [hl, bind, Except.bind] at h
      split at h
      · cases h
      · rename_i emptied he
        split at h
        · cases h
        · rename_i c' hread
          split at h
          · cases h
          · rename_i written hw
            obtain ⟨rfl, -⟩ := Prod.mk.inj (Except.ok.inj h)
            obtain ⟨q, hq, hdir, rfl⟩ := write_eq_ok_iff.1 he
            have hg := grows_setNode hdir (.file ByteArray.empty)
            refine ⟨from_, q, c, c', hfrom, fileAt?_eq_some_iff.2 hnode, hq, hdir, ?_, ?_⟩
            · obtain ⟨q', hq', -, rfl⟩ := write_eq_ok_iff.1 hw
              rw [locate_of_grows hg hq] at hq'
              obtain rfl := Except.ok.inj hq'
              exact setNode_setNode s q _ _
            · intro hne
              obtain ⟨f, hf, hc'⟩ := read_eq_ok_iff.1 hread
              rw [locate_of_grows hg hfrom] at hf
              obtain rfl := Except.ok.inj hf
              rw [fileAt?_setNode hdir, if_neg hne, fileAt?_eq_some_iff.2 hnode] at hc'
              exact (Option.some.inj hc').symm

/-! ## directories -/

/-- Directories have been made where nothing stood, and nothing else is changed. -/
structure OnlyDirs (s t : FileStore) : Prop where
  cwd : t.cwd = s.cwd
  node : ∀ q, t.nodeAt? q = s.nodeAt? q ∨ s.nodeAt? q = none ∧ t.nodeAt? q = some .dir

namespace OnlyDirs

theorem refl (s : FileStore) : OnlyDirs s s := ⟨rfl, fun _ => .inl rfl⟩

theorem trans (h : OnlyDirs s t) (h' : OnlyDirs t u) : OnlyDirs s u := by
  refine ⟨h'.cwd.trans h.cwd, fun q => ?_⟩
  rcases h.node q with hq | ⟨hnone, hq⟩
  · rw [← hq]
    exact h'.node q
  · rcases h'.node q with hq' | ⟨hnone', -⟩
    · exact .inr ⟨hnone, hq'.trans hq⟩
    · rw [hq] at hnone'
      cases hnone'

theorem grows (h : OnlyDirs s t) : Grows s t := by
  refine ⟨h.cwd, fun q hq => ?_⟩
  rcases h.node q with hq' | ⟨hnone, -⟩
  · exact hq'.trans hq
  · rw [hq] at hnone
    cases hnone

theorem fileAt? (h : OnlyDirs s t) (q : Place) : t.fileAt? q = s.fileAt? q := by
  unfold FileStore.fileAt?
  rcases h.node q with hq | ⟨hnone, hq⟩
  · rw [hq]
  · rw [hnone, hq]

end OnlyDirs

theorem makeDir_onlyDirs (h : s.makeDir p = .ok t) : OnlyDirs s t := by
  unfold makeDir at h
  cases hl : s.locateDir p with
  | error e =>
    rw [hl] at h
    cases h
  | ok q =>
    simp only [hl, bind, Except.bind] at h
    split at h
    · cases h
    · rename_i hnone
      obtain rfl := Except.ok.inj h
      have hne : q ≠ [] := ne_nil_of_not_dir (s := s) (by simp [hnone])
      refine ⟨rfl, fun r => ?_⟩
      rw [nodeAt?_setNode s hne]
      split
      · rename_i hr
        exact .inr ⟨hr ▸ hnone, rfl⟩
      · exact .inl rfl

theorem makeChain_onlyDirs {ps : List Path} (h : s.makeChain ps = .ok t) : OnlyDirs s t := by
  induction ps generalizing t with
  | nil => exact Except.ok.inj h ▸ OnlyDirs.refl s
  | cons p ps ih =>
    unfold makeChain at h
    split at h
    · rename_i made hm
      exact Except.ok.inj h ▸ makeDir_onlyDirs hm
    · -- there was no way to the directory: the ones above it come first
      split at h
      · cases h
      · rename_i above ha
        split at h
        · rename_i made hm
          exact Except.ok.inj h ▸ (ih ha).trans (makeDir_onlyDirs hm)
        · split at h
          · exact Except.ok.inj h ▸ ih ha
          · cases h
    · split at h
      · exact Except.ok.inj h ▸ OnlyDirs.refl s
      · cases h

/-- **Making directories leaves all that was there as it was.** -/
theorem makeDirs_onlyDirs (h : s.makeDirs p = .ok t) : OnlyDirs s t := by
  unfold makeDirs at h
  split at h
  · exact Except.ok.inj h ▸ OnlyDirs.refl s
  · exact makeChain_onlyDirs h

theorem OnlyDirs.read (h : OnlyDirs s t) (hr : s.read p = .ok c) : t.read p = .ok c := by
  obtain ⟨q, hq, hc⟩ := read_eq_ok_iff.1 hr
  exact read_eq_ok_iff.2 ⟨q, locate_of_grows h.grows hq, (h.fileAt? q).trans hc⟩

theorem isDir_iff : s.isDir p = true ↔ ∃ q, s.locate p = .ok q ∧ s.nodeAt? q = some .dir := by
  simp only [← lookup_eq_ok_iff]
  unfold isDir
  cases s.lookup p with
  | error e => simp
  | ok r =>
    obtain ⟨q, n⟩ := r
    cases n <;> simp

/-- Parts without a name lead nowhere else. -/
theorem foldlM_stepTo_empties {parts : List String} (h : ∀ n ∈ parts, n = "")
    (hf : parts.foldlM s.stepTo d = .ok q) : q = d := by
  induction parts generalizing d with
  | nil => exact (Except.ok.inj hf).symm
  | cons n parts ih =>
    obtain rfl := h n List.mem_cons_self
    rw [List.foldlM_cons] at hf
    cases hs : s.stepTo d "" with
    | error e =>
      rw [hs] at hf
      cases hf
    | ok d' =>
      rw [hs] at hf
      have hdir := (stepTo_eq_ok hs).1
      rw [stepTo_empty hdir] at hs
      obtain rfl := Except.ok.inj hs
      exact ih (fun m hm => h m (List.mem_cons_of_mem _ hm)) hf

theorem dropEndWhile_append {α : Type} (f : α → Bool) (l : List α) :
    ∃ r, dropEndWhile f l ++ r = l ∧ ∀ x ∈ r, f x = true := by
  refine ⟨(l.reverse.takeWhile f).reverse, ?_, fun x hx => ?_⟩
  · rw [dropEndWhile, ← List.reverse_append, List.takeWhile_append_dropWhile, List.reverse_reverse]
  · exact List.all_eq_true.1 List.all_takeWhile x (List.mem_reverse.1 hx)

/-- A directory that a path leads to is the one that would be made there. -/
theorem locateDir_of_locate (h : s.locate p = .ok q) : s.locateDir p = .ok q := by
  obtain ⟨hw, hf⟩ := walk_eq_ok_iff.1 h
  obtain ⟨r, hr, hempty⟩ := dropEndWhile_append String.isEmpty (partsOf p)
  refine walk_eq_ok_iff.2 ⟨hw, ?_⟩
  rw [← hr, List.foldlM_append] at hf
  cases hd : (dropEndWhile String.isEmpty (partsOf p)).foldlM s.stepTo (s.startOf p) with
  | error e =>
    rw [hd] at hf
    cases hf
  | ok d =>
    rw [hd] at hf
    rw [foldlM_stepTo_empties (fun n hn => by simpa using hempty n hn) hf]

/-- **A directory that is there is left as it is.** -/
theorem makeDirs_of_isDir (h : s.isDir p = true) : s.makeDirs p = .ok s := by
  obtain ⟨q, hq, hdir⟩ := isDir_iff.1 h
  have hmake : s.makeDir p = .error .alreadyThere := by
    unfold makeDir
    rw [locateDir_of_locate hq]
    simp [bind, Except.bind, hdir]
  have hne : p.isEmpty = false := (walk_eq_ok_iff.1 hq).1.ne_empty
  unfold makeDirs chainOf
  rw [hne]
  simp [makeChain, hmake, h]

/-! ## what a directory lists -/

/-- the name of what stands in a directory -/
def nameIn? (d : Place) (n : Place × Node) : Option String :=
  match n.1.getLast? with
  | some name => if n.1.dropLast == d then some name else none
  | none => none

def namesIn (s : FileStore) (d : Place) : List String := s.nodes.filterMap (nameIn? d)

theorem nameIn?_eq_some_iff {n : Place × Node} {name : String} :
    nameIn? d n = some name ↔ n.1 = d ++ [name] := by
  unfold nameIn?
  cases hl : n.1.getLast? with
  | none => simp [List.getLast?_eq_none_iff.1 hl]
  | some last =>
    obtain ⟨above, h⟩ := List.getLast?_eq_some_iff.1 hl
    simp only [h, List.dropLast_concat]
    constructor
    · intro hname
      split at hname
      · rename_i hd
        rw [beq_iff_eq.1 hd, Option.some.inj hname]
      · cases hname
    · intro hname
      obtain ⟨rfl, hlast⟩ := List.append_inj' hname rfl
      simpa using hlast

theorem entries_eq_ok_iff {names : List String} : s.entries p = .ok names ↔
    ∃ d, s.locate p = .ok d ∧ s.nodeAt? d = some .dir ∧
      names = (s.namesIn d).mergeSort fun a b => decide (a ≤ b) := by
  simp only [← and_assoc, ← lookup_eq_ok_iff]
  unfold entries
  cases s.lookup p with
  | error e => simp [bind, Except.bind]
  | ok r =>
    obtain ⟨d, n⟩ := r
    cases n with
    | file c => simp [bind, Except.bind]
    | dir =>
      simp only [bind, Except.bind, Except.ok.injEq, Prod.mk.injEq, and_true, exists_eq_left']
      exact eq_comm

theorem nodeAt?_child (d : Place) (name : String) :
    s.nodeAt? (d ++ [name]) = (s.nodes.find? fun n => n.1 == d ++ [name]).map Prod.snd := by
  simp [nodeAt?]

theorem mem_namesIn {name : String} : name ∈ s.namesIn d ↔ s.nodeAt? (d ++ [name]) ≠ none := by
  rw [nodeAt?_child]
  simp [namesIn, nameIn?_eq_some_iff]

theorem namesIn_setNode {name : String} (h : s.nodeAt? (d ++ [name]) = none) (n : Node) :
    (s.setNode (d ++ [name]) n).namesIn d = s.namesIn d ++ [name] := by
  rw [nodeAt?_child, Option.map_eq_none_iff, List.find?_eq_none] at h
  unfold namesIn setNode
  rw [List.filter_eq_self.2 fun m hm => by simpa using h m hm, List.filterMap_append]
  congr 1
  rw [List.filterMap_cons, nameIn?_eq_some_iff.2 rfl]
  rfl

/-- A directory can be made, or is there, and nothing is in it. -/
def HoldsNothing (s : FileStore) (p : Path) : Prop :=
  ∃ t, s.makeDirs p = .ok t ∧ t.entries p = .ok []

theorem holdsNothing_iff :
    ((s.makeDirs p).toOption.bind fun t => (t.entries p).toOption) = some [] ↔
      s.HoldsNothing p := by
  unfold HoldsNothing
  cases s.makeDirs p with
  | error e => simp [Except.toOption]
  | ok t => cases h : t.entries p <;> simp [Except.toOption, h]

instance (s : FileStore) (p : Path) : Decidable (s.HoldsNothing p) :=
  decidable_of_iff _ holdsNothing_iff

/-- No name is in a directory that lists nothing. -/
theorem entries_eq_nil_iff : s.entries p = .ok [] ↔
    ∃ d, s.locate p = .ok d ∧ s.nodeAt? d = some .dir ∧
      ∀ name, s.nodeAt? (d ++ [name]) = none := by
  rw [entries_eq_ok_iff]
  refine exists_congr fun d => and_congr_right fun _ => and_congr_right fun _ => ?_
  rw [eq_comm, ← List.length_eq_zero_iff, List.length_mergeSort, List.length_eq_zero_iff,
    List.eq_nil_iff_forall_not_mem]
  simp only [mem_namesIn, ne_eq, Decidable.not_not]

end FileStore
end MailBrowser
