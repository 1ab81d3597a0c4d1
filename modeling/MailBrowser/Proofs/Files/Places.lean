import MailBrowser.Files.Store

/-!
# What stands where

What a file operation changes is said of places.  No directory goes away, so that a path keeps
leading where it led.

* `Path.IsName`              a name that stands for itself in a path;
* `FileStore.nodeAt?_setNode`   what stands at a place after a change;
* `FileStore.Grows`          every directory is still there, `locate_of_grows` so paths lead on;
* `FileStore.locate_join_relative`   a path below a path leads on from the place of that;
* `FileStore.locate_join`    a name below a path leads to the place of the path and the name.
-/

namespace MailBrowser
open Text

/-! ## names in paths -/

/-- a name that leads from a directory to what is in it -/
structure Path.IsName (n : String) : Prop where
  ne_empty : n ≠ ""
  ne_dot : n ≠ "."
  ne_dots : n ≠ ".."
  no_slash : '/' ∉ n.toList

section Pieces

variable {p : Char → Bool} {cs ds : List Char} {c : Char}

theorem pieces_cons_of_not (cs : List Char) (h : p c = false) :
    ∃ w ws, pieces p cs = w :: ws ∧ pieces p (c :: cs) = (c :: w) :: ws := by
  cases hp : pieces p cs with
  | nil => exact absurd hp (pieces_ne_nil p cs)
  | cons w ws =>
    refine ⟨w, ws, rfl, ?_⟩
    rw [pieces, h, hp]
    rfl

theorem pieces_append (h : p c = true) :
    pieces p (cs ++ c :: ds) = pieces p cs ++ pieces p ds := by
  induction cs with
  | nil => simp [pieces, h]
  | cons x cs ih =>
    cases hx : p x with
    | true => simp [pieces, hx, ih]
    | false =>
      obtain ⟨w, ws, hw, hc⟩ := pieces_cons_of_not cs hx
      rw [List.cons_append, pieces, ih, hc, hw, hx]
      rfl

theorem pieces_of_none (h : ∀ x ∈ cs, p x = false) : pieces p cs = [cs] := by
  induction cs with
  | nil => rfl
  | cons x cs ih =>
    rw [pieces, ih fun y hy => h y (List.mem_cons_of_mem x hy), h x List.mem_cons_self]
    rfl

end Pieces

namespace Path

theorem not_isAbsolute {n : String} (h : '/' ∉ n.toList) : isAbsolute n = false := by
  unfold isAbsolute
  cases hcs : n.toList with
  | nil => rfl
  | cons c cs =>
    have hc : c ≠ '/' := fun e => h (hcs ▸ e ▸ List.mem_cons_self)
    simpa using hc

theorem isAbsolute_of_begins {path longer : Path} (hne : path ≠ "")
    (h : path.toList <+: longer.toList) : isAbsolute longer = isAbsolute path := by
  obtain ⟨r, hr⟩ := h
  unfold isAbsolute
  rw [← hr]
  cases hcs : path.toList with
  | nil => exact absurd (by simpa using hcs) hne
  | cons c cs => rfl

/-- A path and one below it: what a slash at the end of the path adds is left out. -/
theorem join_cases (a : Path) {n : String} (h : isAbsolute n = false) :
    (a = "" ∧ join a n = n) ∨
      ∃ above : List Char, above ++ ['/'] ++ n.toList = (join a n).toList ∧
        (above = a.toList ∧ a ≠ "" ∨ above ++ ['/'] = a.toList) := by
  unfold join
  rw [h]
  by_cases ha : a = ""
  · left
    refine ⟨ha, ?_⟩
    rw [ha]
    simp
  · right
    have hne : a.isEmpty = false := by simpa using ha
    cases hl : a.toList.getLast? == some '/' with
    | true =>
      obtain ⟨above, habove⟩ := List.getLast?_eq_some_iff.1 (beq_iff_eq.1 hl)
      refine ⟨above, ?_, .inr habove.symm⟩
      simp [hne, habove]
    | false =>
      refine ⟨a.toList, ?_, .inl ⟨rfl, ha⟩⟩
      simp [hne]

theorem join_ne_empty (a : Path) {n : String} (hn : IsName n) : join a n ≠ "" := by
  rcases join_cases a (not_isAbsolute hn.no_slash) with ⟨-, hj⟩ | ⟨above, hj, -⟩
  · rw [hj]
    exact hn.ne_empty
  · intro he
    rw [he] at hj
    simp at hj

end Path

namespace FileStore

variable {s t u : FileStore} {p q : Place} {n : Node}

/-! ## places -/

theorem ne_nil_of_not_dir (h : s.nodeAt? p ≠ some .dir) : p ≠ [] := by
  rintro rfl
  exact h rfl

theorem nodeAt?_setNode (s : FileStore) (hp : p ≠ []) (n : Node) (q : Place) :
    (s.setNode p n).nodeAt? q = if q = p then some n else s.nodeAt? q := by
  unfold nodeAt? setNode
  by_cases hq : q = []
  · rw [hq, if_neg hp.symm]
    rfl
  · have he : q.isEmpty = false := by simpa using hq
    simp only [he, Bool.false_eq_true, if_false, List.find?_append, List.find?_filter]
    by_cases hqp : q = p
    · subst hqp
      have hnone : s.nodes.find? (fun m => decide ((m.1 != q) = true ∧ (m.1 == q) = true)) =
          none := by
        rw [List.find?_eq_none]
        simp
      rw [if_pos rfl, hnone]
      simp
    · have hsame : s.nodes.find? (fun m => decide ((m.1 != p) = true ∧ (m.1 == q) = true)) =
          s.nodes.find? (fun m => m.1 == q) := by
        congr 1
        funext m
        by_cases hm : m.1 = q
        · simp [hm, hqp]
        · simp [hm]
      rw [if_neg hqp, hsame]
      have hpq : (p == q) = false := by simpa using fun e => hqp e.symm
      simp [hpq]

theorem setNode_setNode (s : FileStore) (p : Place) (n n' : Node) :
    (s.setNode p n).setNode p n' = s.setNode p n' := by
  unfold setNode
  simp [List.filter_append]

/-! ## paths lead on -/

/-- Every directory is still there. -/
structure Grows (s t : FileStore) : Prop where
  cwd : t.cwd = s.cwd
  dirs : ∀ q, s.nodeAt? q = some .dir → t.nodeAt? q = some .dir

theorem Grows.refl (s : FileStore) : Grows s s := ⟨rfl, fun _ h => h⟩

theorem Grows.trans (h : Grows s t) (h' : Grows t u) : Grows s u :=
  ⟨h'.cwd.trans h.cwd, fun q hq => h'.dirs q (h.dirs q hq)⟩

theorem grows_setNode (h : s.nodeAt? p ≠ some .dir) (n : Node) : Grows s (s.setNode p n) := by
  refine ⟨rfl, fun q hq => ?_⟩
  rw [nodeAt?_setNode s (ne_nil_of_not_dir h), if_neg, hq]
  rintro rfl
  exact h hq

theorem needDir_eq_ok_iff : s.needDir p = .ok () ↔ s.nodeAt? p = some .dir := by
  unfold needDir
  cases s.nodeAt? p with
  | none => simp
  | some n => cases n <;> simp

/-- A step further is made from a directory. -/
theorem stepTo_eq_ok {name : String} (h : s.stepTo p name = .ok q) :
    s.nodeAt? p = some .dir ∧
      ∀ t : FileStore, t.nodeAt? p = some .dir → t.stepTo p name = .ok q := by
  unfold stepTo at h
  cases hd : s.needDir p with
  | error e =>
    rw [hd] at h
    cases h
  | ok x =>
    refine ⟨needDir_eq_ok_iff.1 hd, fun t ht => ?_⟩
    rw [hd] at h
    unfold stepTo
    rw [needDir_eq_ok_iff.2 ht]
    exact h

theorem foldlM_stepTo_of_grows (hg : Grows s t) {parts : List String}
    (h : parts.foldlM s.stepTo p = .ok q) : parts.foldlM t.stepTo p = .ok q := by
  induction parts generalizing p with
  | nil => exact h
  | cons name parts ih =>
    rw [List.foldlM_cons] at h ⊢
    cases hs : s.stepTo p name with
    | error e =>
      rw [hs] at h
      cases h
    | ok p' =>
      rw [hs] at h
      obtain ⟨hdir, hstep⟩ := stepTo_eq_ok hs
      rw [hstep t (hg.dirs p hdir)]
      exact ih h

/-- what is asked of the text of a path -/
structure Walkable (p : Path) : Prop where
  no_null : '\x00' ∉ p.toList
  ne_empty : p.isEmpty = false
  short : p.utf8ByteSize ≤ pathLimit

/-- where a path begins -/
def startOf (s : FileStore) (p : Path) : Place := if Path.isAbsolute p then [] else s.cwd

theorem walk_eq_ok_iff {path : Path} {parts : List String} :
    s.walk path parts = .ok q ↔
      Walkable path ∧ parts.foldlM s.stepTo (s.startOf path) = .ok q := by
  unfold walk
  constructor
  · intro h
    split at h
    · cases h
    · split at h
      · cases h
      · split at h
        · cases h
        · rename_i hn he hl
          exact ⟨⟨hn, Bool.eq_false_iff.2 he, Nat.not_lt.1 hl⟩, h⟩
  · rintro ⟨hw, h⟩
    rw [if_neg hw.no_null, hw.ne_empty, if_neg (Nat.not_lt.2 hw.short)]
    exact h

theorem walk_of_grows (hg : Grows s t) {path : Path} {parts : List String}
    (h : s.walk path parts = .ok q) : t.walk path parts = .ok q := by
  obtain ⟨hw, hf⟩ := walk_eq_ok_iff.1 h
  refine walk_eq_ok_iff.2 ⟨hw, ?_⟩
  unfold startOf at *
  rw [hg.cwd]
  exact foldlM_stepTo_of_grows hg hf

theorem locate_of_grows (hg : Grows s t) {path : Path} (h : s.locate path = .ok q) :
    t.locate path = .ok q := walk_of_grows hg h

/-! ## a name below a path -/

/-- where paths below a path begin: the empty path stands for the working directory -/
def baseOf (s : FileStore) (path : Path) : Except FileError Place :=
  if path.isEmpty then .ok s.cwd else s.locate path

theorem baseOf_of_grows (hg : Grows s t) {path : Path} (h : s.baseOf path = .ok q) :
    t.baseOf path = .ok q := by
  unfold baseOf at *
  split at h
  · rename_i he
    rw [if_pos he, hg.cwd]
    exact h
  · rename_i he
    rw [if_neg he]
    exact locate_of_grows hg h

theorem baseOf_of_locate {path : Path} (h : s.locate path = .ok q) : s.baseOf path = .ok q := by
  rw [baseOf, (walk_eq_ok_iff.1 h).1.ne_empty]
  exact h

theorem locate_of_baseOf {path : Path} (hne : path ≠ "") (h : s.baseOf path = .ok q) :
    s.locate path = .ok q := by
  have he : path.isEmpty = false := by simpa using hne
  rwa [baseOf, he] at h

/-- **A step stays, goes up, or goes to a name.** -/
theorem stepTo_cases {name : String} (h : s.stepTo p name = .ok q) :
    ((name = "" ∨ name = ".") ∧ q = p) ∨ (name = ".." ∧ q = p.dropLast) ∨
      (name ≠ "" ∧ name ≠ "." ∧ name ≠ ".." ∧ q = p ++ [name]) := by
  unfold stepTo at h
  cases hd : s.needDir p with
  | error e =>
    rw [hd] at h
    cases h
  | ok x =>
    rw [hd] at h
    simp only [bind, Except.bind] at h
    split at h
    · rename_i hstay
      exact .inl ⟨hstay, (Except.ok.inj h).symm⟩
    · rename_i hmove
      obtain ⟨hempty, hdot⟩ := not_or.1 hmove
      split at h
      · rename_i hup
        exact .inr (.inl ⟨hup, (Except.ok.inj h).symm⟩)
      · rename_i hup
        split at h
        · cases h
        · exact .inr (.inr ⟨hempty, hdot, hup, (Except.ok.inj h).symm⟩)

theorem stepTo_name {name : String} (hn : Path.IsName name) (h : s.stepTo p name = .ok q) :
    q = p ++ [name] := by
  rcases stepTo_cases h with ⟨hstay, -⟩ | ⟨hup, -⟩ | ⟨-, -, -, hq⟩
  · exact absurd hstay (not_or.2 ⟨hn.ne_empty, hn.ne_dot⟩)
  · exact absurd hup hn.ne_dots
  · exact hq

theorem stepTo_empty (h : s.nodeAt? p = some .dir) : s.stepTo p "" = .ok p := by
  unfold stepTo
  rw [needDir_eq_ok_iff.2 h]
  rfl

theorem foldlM_append_eq_ok {before parts : List String}
    (h : (before ++ parts).foldlM s.stepTo p = .ok q) :
    ∃ d, before.foldlM s.stepTo p = .ok d ∧ parts.foldlM s.stepTo d = .ok q := by
  rw [List.foldlM_append] at h
  cases hd : before.foldlM s.stepTo p with
  | error e =>
    rw [hd] at h
    cases h
  | ok d =>
    rw [hd] at h
    exact ⟨d, rfl, h⟩

/-- A way of at least one part begins in a directory. -/
theorem isDir_of_foldlM {parts : List String} (hne : parts ≠ [])
    (h : parts.foldlM s.stepTo p = .ok q) : s.nodeAt? p = some .dir := by
  cases parts with
  | nil => exact absurd rfl hne
  | cons name parts =>
    rw [List.foldlM_cons] at h
    cases hs : s.stepTo p name with
    | error e =>
      rw [hs] at h
      cases h
    | ok p' => exact (stepTo_eq_ok hs).1

theorem partsOf_ne_nil (path : Path) : partsOf path ≠ [] := by
  simpa [partsOf] using pieces_ne_nil (· == '/') path.toList

theorem partsOf_name {name : String} (hn : '/' ∉ name.toList) : partsOf name = [name] := by
  unfold partsOf
  rw [pieces_of_none fun x hx => by simpa using fun e : x = '/' => hn (e ▸ hx)]
  simp

theorem partsOf_append {above : List Char} {below path : String}
    (h : above ++ ['/'] ++ below.toList = path.toList) :
    partsOf path = (pieces (· == '/') above).map String.ofList ++ partsOf below := by
  unfold partsOf
  rw [← h, List.append_assoc, List.singleton_append, pieces_append (by rfl), List.map_append]

/-- What a path begins with begins where it does. -/
theorem startOf_of_begins {path longer : Path} (hne : path ≠ "")
    (h : path.toList <+: longer.toList) : s.startOf longer = s.startOf path := by
  unfold startOf
  rw [Path.isAbsolute_of_begins hne h]

theorem Walkable.of_begins {path longer : Path} (hw : Walkable longer) (hne : path ≠ "")
    (h : path.toList <+: longer.toList) : Walkable path := by
  obtain ⟨r, hr⟩ := h
  have hl : longer = path ++ String.ofList r := by
    rw [← String.toList_inj, ← hr, String.toList_append, String.toList_ofList]
  refine ⟨fun hn => hw.no_null (hr ▸ List.mem_append_left r hn), by simpa using hne, ?_⟩
  have := hw.short
  rw [hl, String.utf8ByteSize_append] at this
  omega

/-- **A path below a path leads on from the place of that.** -/
theorem locate_join_relative {path below : Path} (hb : Path.isAbsolute below = false)
    (h : s.locate (Path.join path below) = .ok q) :
    ∃ d, s.baseOf path = .ok d ∧ (partsOf below).foldlM s.stepTo d = .ok q := by
  obtain ⟨hw, hf⟩ := walk_eq_ok_iff.1 h
  unfold startOf at hf
  rcases Path.join_cases path hb with ⟨rfl, hj⟩ | ⟨above, hj, ha⟩
  · rw [hj, hb] at hf
    exact ⟨s.cwd, rfl, hf⟩
  · rw [partsOf_append hj] at hf
    obtain ⟨d, hd, hbelow⟩ := foldlM_append_eq_ok hf
    have hne : path ≠ "" := by
      rcases ha with ⟨_, hne⟩ | hend
      · exact hne
      · rintro rfl
        simp at hend
    have hpre : path.toList <+: (Path.join path below).toList := by
      rcases ha with ⟨rfl, _⟩ | hend
      · rw [← hj, List.append_assoc]
        exact List.prefix_append _ _
      · rw [← hj, hend]
        exact List.prefix_append _ _
    have hparts : (partsOf path).foldlM s.stepTo (s.startOf path) = .ok d := by
      rw [← startOf_of_begins hne hpre]
      rcases ha with ⟨rfl, _⟩ | hend
      · exact hd
      · -- a slash at the end adds a part without a name, which stays where it is
        rw [partsOf, ← hend, pieces_append (by rfl), List.map_append, List.foldlM_append, startOf,
          hd]
        change [""].foldlM s.stepTo d = .ok d
        rw [List.foldlM_cons, stepTo_empty (isDir_of_foldlM (partsOf_ne_nil below) hbelow)]
        rfl
    have he : path.isEmpty = false := by simpa using hne
    refine ⟨d, ?_, hbelow⟩
    rw [baseOf, he]
    exact walk_eq_ok_iff.2 ⟨hw.of_begins hne hpre, hparts⟩

/-- **A name below a path leads to the place of the path and the name.** -/
theorem locate_join {path : Path} {name : String} (hn : Path.IsName name)
    (h : s.locate (Path.join path name) = .ok q) :
    ∃ d, s.baseOf path = .ok d ∧ s.nodeAt? d = some .dir ∧ q = d ++ [name] := by
  obtain ⟨d, hd, hname⟩ := locate_join_relative (Path.not_isAbsolute hn.no_slash) h
  rw [partsOf_name hn.no_slash] at hname
  have hs : s.stepTo d name = .ok q := by simpa using hname
  exact ⟨d, hd, (stepTo_eq_ok hs).1, stepTo_name hn hs⟩

end FileStore
end MailBrowser
