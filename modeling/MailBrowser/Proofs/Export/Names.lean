import Mathlib.Data.List.Nodup
import MailBrowser.Browser.DiskUse
import MailBrowser.Proofs.Files.Endings
import MailBrowser.Proofs.Files.Places

/-!
# Names of exported files

Names are single components, whatever the mail says, and numbers keep them apart unless a mail
has a name of its own that looks like a numbered one.

* `Path.IsComponent`         a name without slashes of either kind that is no dot or two;
* `isComponent_folderName`, `isComponent_of_mem_targetNames`   the names of an export;
* `numbered_inj`             a numbered name tells the name and the number;
* `targetNames_eq`           a name, numbered by how often it was asked for before;
* `nodup_givenNames_iff`     when all names of an export differ.
-/

namespace MailBrowser
open Text

/-- one component of a path, on systems with slashes of either kind -/
structure Path.IsComponent (n : String) : Prop extends Path.IsName n where
  no_backslash : '\\' ∉ n.toList

/-- A name with a low line is no dot or two. -/
theorem Path.isComponent_of_mem {n : String} (h : '_' ∈ n.toList) (hs : '/' ∉ n.toList)
    (hb : '\\' ∉ n.toList) : Path.IsComponent n := by
  refine ⟨⟨?_, ?_, ?_, hs⟩, hb⟩
  all_goals
    rintro rfl
    revert h
    decide

namespace Export

/-! ## characters -/

theorem not_mem_refused_of_mem_safeChars {cs : List Char} {c : Char} (h : c ∈ safeChars cs) :
    c ∉ refused := by
  obtain ⟨x, -, rfl⟩ := List.mem_map.1 h
  split
  · decide
  · assumption

theorem isDigit_of_mem_decimal {n : Int} {c : Char} (h : c ∈ (decimal n).toList) :
    c.isDigit = true ∨ c = '-' := by
  rw [decimal, String.toList_ofList] at h
  cases n with
  | ofNat n => exact .inl (isDigit_of_mem_digits h)
  | negSucc n =>
    rcases List.mem_cons.1 h with rfl | h
    · exact .inr rfl
    · exact .inl (isDigit_of_mem_digits h)

theorem not_mem_refused_of_mem_decimal {n : Int} {c : Char} (h : c ∈ (decimal n).toList) :
    c ∉ refused := by
  have hrefused : (refused.all fun c => !c.isDigit) = true := by decide
  rcases isDigit_of_mem_decimal h with hd | rfl
  · intro hc
    have hno := List.all_eq_true.1 hrefused c hc
    rw [hd] at hno
    cases hno
  · decide

theorem isComponent_of_refused {n : String} (hn : '_' ∈ n.toList)
    (h : ∀ c ∈ n.toList, c ∉ refused) : Path.IsComponent n :=
  Path.isComponent_of_mem hn (fun hc => h _ hc (by decide)) fun hc => h _ hc (by decide)

/-- **The directory of an export is one component.** -/
theorem isComponent_folderName (subject : String) (id : Int) :
    Path.IsComponent (folderName subject id) := by
  refine isComponent_of_refused (by simp [folderName]) fun c hc => ?_
  simp only [folderName, String.toList_append, String.toList_ofList, List.mem_append] at hc
  rcases hc with (hc | hc) | hc
  · exact not_mem_refused_of_mem_safeChars (List.mem_of_mem_take hc)
  · obtain rfl : c = '_' := by simpa using hc
    decide
  · exact not_mem_refused_of_mem_decimal hc

/-- The end of what the mail says is one component, or else the number of the attachment is. -/
theorem isComponent_safeName (a : Attachment) : Path.IsComponent (safeName a) := by
  unfold safeName
  dsimp only
  split
  · refine isComponent_of_refused (by simp) fun c hc => ?_
    rcases List.mem_append.1 (String.toList_append ▸ hc) with hc | hc
    · have hplain : ("attachment_".toList.all fun c => !refused.contains c) = true := by decide
      simpa using List.all_eq_true.1 hplain c hc
    · exact not_mem_refused_of_mem_decimal hc
  · rename_i hbase
    simp only [not_or] at hbase
    have hsafe : ∀ c ∈ (safeText ((Path.fileName? (String.ofList (a.filename.toList.map fun c =>
        if c = '\\' then '/' else c))).getD "")).toList, c ∉ refused := by
      intro c hc
      rw [safeText, String.toList_ofList] at hc
      exact not_mem_refused_of_mem_safeChars hc
    exact ⟨⟨hbase.1, hbase.2.1, hbase.2.2, fun hc => hsafe _ hc (by decide)⟩, fun hc =>
      hsafe _ hc (by decide)⟩

/-! ## numbers -/

/-- the characters of a numbered name -/
theorem toList_numbered (name : String) (k : Nat) :
    ((∀ before after, name.toList = before ++ '.' :: after → '.' ∉ after →
        ∀ c ∈ before, c = '.') ∧
      (numbered name k).toList = name.toList ++ '_' :: digits k) ∨
    ∃ before after, name.toList = before ++ '.' :: after ∧ '.' ∉ after ∧
      (numbered name k).toList = (before ++ '_' :: digits k) ++ '.' :: after := by
  have hk : (decimal (k : Int)).toList = digits k := String.toList_ofList
  rcases Path.cutAtDot_cases name with ⟨hcut, hdots⟩ | ⟨before, after, h, ha, -, hcut⟩
  · refine .inl ⟨hdots, ?_⟩
    simp [numbered, Path.stemOf, Path.extensionOf?, hcut, hk]
  · refine .inr ⟨before, after, h, ha, ?_⟩
    simp [numbered, Path.stemOf, Path.extensionOf?, hcut, hk]

theorem low_not_mem_digits (n : Nat) : '_' ∉ digits n := fun h =>
  absurd (isDigit_of_mem_digits h) (by decide)

theorem dot_not_mem_number (n : Nat) : '.' ∉ '_' :: digits n := fun h => by
  rcases List.mem_cons.1 h with h | h
  · cases h
  · exact absurd (isDigit_of_mem_digits h) (by decide)

/-- A name that stays whole, when it is numbered, is no numbered name with an ending. -/
theorem whole_ne_cut {name : String} {k k' : Nat} {before' after' : List Char}
    (hdots : ∀ before after, name.toList = before ++ '.' :: after → '.' ∉ after →
      ∀ c ∈ before, c = '.') (ha' : '.' ∉ after') :
    name.toList ++ '_' :: digits k ≠ (before' ++ '_' :: digits k') ++ '.' :: after' := by
  intro h
  have hdot : '.' ∈ name.toList := by
    have hmem : '.' ∈ name.toList ++ '_' :: digits k :=
      h ▸ List.mem_append_right _ List.mem_cons_self
    exact (List.mem_append.1 hmem).resolve_right (dot_not_mem_number k)
  obtain ⟨before, after, hname, ha⟩ := Path.exists_last_dot hdot
  rw [hname, List.append_assoc, List.cons_append] at h
  have hafter : '.' ∉ after ++ '_' :: digits k := fun hm =>
    (List.mem_append.1 hm).elim ha (dot_not_mem_number k)
  obtain ⟨rfl, -⟩ := append_sep_inj h hafter ha'
  exact absurd (hdots _ _ hname ha '_' (List.mem_append_right _ List.mem_cons_self)) (by decide)

/-- **A numbered name tells the name and the number.** -/
theorem numbered_inj {name name' : String} {k k' : Nat} (h : numbered name k = numbered name' k') :
    name = name' ∧ k = k' := by
  have hchars := congrArg String.toList h
  rcases toList_numbered name k with ⟨hdots, hn⟩ | ⟨before, after, hname, ha, hn⟩ <;>
    rcases toList_numbered name' k' with ⟨hdots', hn'⟩ | ⟨before', after', hname', ha', hn'⟩ <;>
    rw [hn, hn'] at hchars
  · obtain ⟨hs, hk⟩ := append_sep_inj hchars (low_not_mem_digits k) (low_not_mem_digits k')
    exact ⟨String.toList_inj.1 hs, digits_injective hk⟩
  · exact absurd hchars (whole_ne_cut hdots ha')
  · exact absurd hchars.symm (whole_ne_cut hdots' ha)
  · obtain ⟨hstem, rfl⟩ := append_sep_inj hchars ha ha'
    obtain ⟨rfl, hk⟩ := append_sep_inj hstem (low_not_mem_digits k) (low_not_mem_digits k')
    exact ⟨String.toList_inj.1 (hname.trans hname'.symm), digits_injective hk⟩

theorem isComponent_numbered {name : String} (h : Path.IsComponent name) (k : Nat) :
    Path.IsComponent (numbered name k) := by
  have hmem : ∀ c ∈ (numbered name k).toList, c ∈ name.toList ∨ c = '_' ∨ c.isDigit = true := by
    intro c hc
    rcases toList_numbered name k with ⟨-, hn⟩ | ⟨before, after, hname, -, hn⟩
    · simp only [hn, List.mem_append, List.mem_cons] at hc
      rcases hc with hc | hc | hc
      · exact .inl hc
      · exact .inr (.inl hc)
      · exact .inr (.inr (isDigit_of_mem_digits hc))
    · simp only [hn, List.mem_append, List.mem_cons] at hc
      rcases hc with (hc | hc | hc) | hc | hc
      · exact .inl (hname ▸ List.mem_append_left _ hc)
      · exact .inr (.inl hc)
      · exact .inr (.inr (isDigit_of_mem_digits hc))
      · exact .inl (hname ▸ hc ▸ List.mem_append_right _ List.mem_cons_self)
      · exact .inl (hname ▸ List.mem_append_right _ (List.mem_cons_of_mem _ hc))
  have hlow : '_' ∈ (numbered name k).toList := by
    rcases toList_numbered name k with ⟨-, hn⟩ | ⟨before, after, -, -, hn⟩
    · simp [hn]
    · simp [hn]
  refine Path.isComponent_of_mem hlow (fun hc => ?_) fun hc => ?_
  · exact (hmem _ hc).elim h.no_slash (by decide)
  · exact (hmem _ hc).elim h.no_backslash (by decide)

/-! ## names asked for more than once -/

/-- a name that was asked for `k` times before -/
def nthName (name : String) : Nat → String
  | 0 => name
  | k + 1 => numbered name (k + 1)

/-- names with how often each was asked for before -/
def occurrences (before : List String) : List String → List (String × Nat)
  | [] => []
  | name :: names => (name, before.count name) :: occurrences (name :: before) names

theorem mem_occurrences {before names : List String} {name : String} {k : Nat} :
    (name, k) ∈ occurrences before names ↔
      before.count name ≤ k ∧ k < before.count name + names.count name := by
  induction names generalizing before with
  | nil =>
    simp only [occurrences, List.not_mem_nil, List.count_nil, false_iff]
    omega
  | cons n names ih =>
    rw [occurrences, List.mem_cons, ih, Prod.mk.injEq, List.count_cons, List.count_cons]
    by_cases h : n = name
    · subst h
      simp only [true_and, beq_self_eq_true, if_true]
      omega
    · simp [h, Ne.symm h]

theorem nodup_occurrences (before names : List String) : (occurrences before names).Nodup := by
  induction names generalizing before with
  | nil => exact List.nodup_nil
  | cons name names ih =>
    refine List.nodup_cons.2 ⟨fun h => ?_, ih _⟩
    have hle := (mem_occurrences.1 h).1
    rw [List.count_cons_self] at hle
    omega

/-- The counts say how often each name was asked for after the first time. -/
def Represents (counts : NameCounts) (before : List String) : Prop :=
  ∀ name, counts.find? (fun c => c.1 == name) =
    if before.count name = 0 then none else some (name, before.count name - 1)

theorem represents_nil : Represents [] [] := fun _ => rfl

theorem represents_first {counts : NameCounts} {before : List String} {name : String}
    (h : Represents counts before) (hc : before.count name = 0) :
    Represents ((name, 0) :: counts) (name :: before) := by
  intro other
  rw [List.find?_cons, List.count_cons]
  by_cases ho : name = other
  · subst ho
    simp [hc]
  · rw [beq_eq_false_iff_ne.2 ho]
    simp [h other]

theorem represents_again {counts : NameCounts} {before : List String} {name : String}
    (h : Represents counts before) (hc : before.count name ≠ 0) :
    Represents (counts.map fun c => if c.1 = name then (name, before.count name) else c)
      (name :: before) := by
  intro other
  have hsame : ((fun c => c.1 == other) ∘ fun c : String × Nat =>
      if c.1 = name then (name, before.count name) else c) = fun c => c.1 == other := by
    funext c
    by_cases hcn : c.1 = name
    · simp [hcn]
    · simp [hcn]
  rw [List.find?_map, hsame, h other, List.count_cons]
  by_cases ho : name = other
  · subst ho
    simp [hc]
  · by_cases hz : before.count other = 0
    · simp [hz, ho]
    · simp [hz, ho, Ne.symm ho]

theorem take_of_represents {counts : NameCounts} {before : List String}
    (h : Represents counts before) (name : String) :
    (counts.take name).1 = nthName name (before.count name) ∧
      Represents (counts.take name).2 (name :: before) := by
  unfold NameCounts.take
  rw [h name]
  by_cases hc : before.count name = 0
  · rw [if_pos hc, hc]
    exact ⟨rfl, represents_first h hc⟩
  · have hagain := represents_again h hc
    rw [if_neg hc]
    obtain ⟨k, hk⟩ := Nat.exists_eq_succ_of_ne_zero hc
    rw [hk] at hagain ⊢
    exact ⟨rfl, hagain⟩

/-- the names that are given to names asked for -/
def givenNames (names : List String) : List String :=
  (occurrences [] names).map fun o => nthName o.1 o.2

/-- one name more, and the counts behind it -/
def giveName (given : List String × NameCounts) (a : Attachment) : List String × NameCounts :=
  ((given.2.take (safeName a)).1 :: given.1, (given.2.take (safeName a)).2)

theorem foldl_giveName {counts : NameCounts} {before : List String} (h : Represents counts before)
    (as : List Attachment) (done : List String) :
    (as.foldl giveName (done, counts)).1 =
      ((occurrences before (as.map safeName)).map fun o => nthName o.1 o.2).reverse ++ done := by
  induction as generalizing counts before done with
  | nil => rfl
  | cons a as ih =>
    obtain ⟨hname, hcounts⟩ := take_of_represents h (safeName a)
    rw [List.foldl_cons, List.map_cons, occurrences, List.map_cons, List.reverse_cons,
      List.append_assoc, List.singleton_append, ← hname]
    exact ih hcounts _

theorem targetNames_eq (as : List Attachment) :
    targetNames as = givenNames (as.map safeName) := by
  change (as.foldl giveName ([], [])).1.reverse = _
  rw [foldl_giveName represents_nil, List.append_nil, List.reverse_reverse]
  rfl

/-- **The names of an export differ, unless a name that is asked for is the numbered form of one
that is asked for more often.** -/
theorem nodup_givenNames_iff {names : List String} : (givenNames names).Nodup ↔
    ∀ name ∈ names, ∀ k, 1 ≤ k → k < names.count name → numbered name k ∉ names := by
  have hmem (name : String) (k : Nat) :
      (name, k) ∈ occurrences [] names ↔ k < names.count name := by
    simp [mem_occurrences]
  unfold givenNames
  rw [List.nodup_map_iff_inj_on (nodup_occurrences [] names)]
  constructor
  · intro hinj name _ k hk hlt hin
    have hfirst := (hmem (numbered name k) 0).2 (List.count_pos_iff.2 hin)
    have hsame : nthName name k = numbered name k := by
      cases k with
      | zero => omega
      | succ k => rfl
    have heq := hinj _ ((hmem name k).2 hlt) _ hfirst hsame
    have hzero : k = 0 := (Prod.mk.inj heq).2
    omega
  · rintro hfree ⟨name, k⟩ ho ⟨name', k'⟩ ho' heq
    have hlt := (hmem name k).1 ho
    have hlt' := (hmem name' k').1 ho'
    have hin : name ∈ names := List.count_pos_iff.1 (by omega)
    have hin' : name' ∈ names := List.count_pos_iff.1 (by omega)
    cases k with
    | zero =>
      cases k' with
      | zero => exact Prod.mk.injEq .. ▸ ⟨heq, rfl⟩
      | succ k' =>
        have heq : name = numbered name' (k' + 1) := heq
        exact absurd (heq ▸ hin) (hfree name' hin' (k' + 1) (by omega) hlt')
    | succ k =>
      cases k' with
      | zero =>
        have heq : numbered name (k + 1) = name' := heq
        exact absurd (heq ▸ hin') (hfree name hin (k + 1) (by omega) hlt)
      | succ k' =>
        obtain ⟨hn, hk⟩ := numbered_inj heq
        exact Prod.ext hn hk

theorem isComponent_of_mem_targetNames {as : List Attachment} {name : String}
    (h : name ∈ targetNames as) : Path.IsComponent name := by
  rw [targetNames_eq] at h
  obtain ⟨⟨asked, k⟩, ho, rfl⟩ := List.mem_map.1 h
  have hpos : 0 < (as.map safeName).count asked := by
    have hb := mem_occurrences.1 ho
    rw [List.count_nil] at hb
    omega
  obtain ⟨a, -, ha⟩ := List.mem_map.1 (List.count_pos_iff.1 hpos)
  have hasked : Path.IsComponent asked := ha ▸ isComponent_safeName a
  cases k with
  | zero => exact hasked
  | succ k => exact isComponent_numbered hasked (k + 1)

end Export
end MailBrowser
