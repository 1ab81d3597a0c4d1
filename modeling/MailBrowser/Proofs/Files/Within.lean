import MailBrowser.Proofs.Files.Places

/-!
# Paths inside a directory

A path is inside a directory if it is the directory's path and a relative one, and the two dots in
that never lead out of where it begins.

* `Path.staysBelow`       two dots in a row of components never lead out of where it begins;
* `Path.Within`           the paths inside a directory, `within_join_iff` which relative ones lead
                          to them;
* `Path.join_join`        a path is put together in either order;
* `Path.components_join`  the components of a path that is put together;
* `FileStore.locate_of_within`   what they lead to stands below the directory.
-/

namespace MailBrowser
open Text

namespace Path

/-! ## components that stay below -/

/-- `n` is how far below the first component begins. -/
def staysBelow (n : Nat) : List String → Bool
  | [] => true
  | c :: cs => if c = ".." then n != 0 && staysBelow (n - 1) cs else staysBelow (n + 1) cs

theorem staysBelow_dots (n : Nat) (cs : List String) :
    staysBelow (n + 1) (".." :: cs) = staysBelow n cs := rfl

theorem staysBelow_name {c : String} (h : c ≠ "..") (n : Nat) (cs : List String) :
    staysBelow n (c :: cs) = staysBelow (n + 1) cs := by
  rw [staysBelow, if_neg h]

theorem staysBelow_of_names {cs : List String} (h : ∀ c ∈ cs, c ≠ "..") (n : Nat) :
    staysBelow n cs = true := by
  induction cs generalizing n with
  | nil => rw [staysBelow]
  | cons c cs ih =>
    rw [staysBelow_name (h c List.mem_cons_self)]
    exact ih (fun x hx => h x (List.mem_cons_of_mem c hx)) (n + 1)

/-- The path is that of the directory and a relative one that does not leave it. -/
def Within (dir p : Path) : Prop :=
  ∃ r, isAbsolute r = false ∧ p = join dir r ∧ staysBelow 0 (components r) = true

/-! ## paths put together -/

variable {a b c : Path}

/-- what stands before a relative path that is put below the path -/
def opened (a : Path) : String := if a.isEmpty || a.toList.getLast? == some '/' then a else a ++ "/"

theorem join_of_relative (a : Path) (hb : isAbsolute b = false) : join a b = opened a ++ b := by
  unfold join opened
  rw [hb]
  cases a.isEmpty || a.toList.getLast? == some '/' <;> rfl

theorem join_right_injective (hb : isAbsolute b = false) (hc : isAbsolute c = false)
    (h : join a b = join a c) : b = c := by
  rw [join_of_relative a hb, join_of_relative a hc] at h
  rw [← String.toList_inj, String.toList_append, String.toList_append] at h
  exact String.toList_inj.1 (List.append_cancel_left h)

theorem opened_eq_self (h : a = "" ∨ a.toList.getLast? = some '/') : opened a = a :=
  if_pos (by simpa using h)

theorem opened_eq_append (hne : a ≠ "") (h : a.toList.getLast? ≠ some '/') : opened a = a ++ "/" :=
  if_neg (by simpa using ⟨hne, h⟩)

theorem opened_opened (a : Path) : opened (opened a) = opened a := by
  by_cases h : a = "" ∨ a.toList.getLast? = some '/'
  · rw [opened_eq_self h, opened_eq_self h]
  · obtain ⟨hne, hl⟩ := not_or.1 h
    rw [opened_eq_append hne hl]
    exact opened_eq_self (.inr (by simp))

theorem opened_append (a b : Path) : opened (opened a ++ b) = opened a ++ opened b := by
  by_cases hb : b = ""
  · rw [hb, String.append_empty, opened_opened]
    exact (String.append_empty).symm
  · have hlast : (opened a ++ b).toList.getLast? = b.toList.getLast? := by
      rw [String.toList_append, List.getLast?_append]
      cases hcs : b.toList.getLast? with
      | none => exact absurd (by simpa using hcs) hb
      | some x => rfl
    by_cases h : b.toList.getLast? = some '/'
    · rw [opened_eq_self (.inr (hlast.trans h)), opened_eq_self (.inr h)]
    · have hne : opened a ++ b ≠ "" := fun e => hb (String.append_eq_empty_iff.1 e).2
      rw [opened_eq_append hne (hlast ▸ h), opened_eq_append hb h, String.append_assoc]

theorem isAbsolute_join (hb : isAbsolute b = false) (hc : isAbsolute c = false) :
    isAbsolute (join b c) = false := by
  rw [join_of_relative b hc]
  by_cases h : b = ""
  · rw [h, opened_eq_self (.inl rfl), String.empty_append]
    exact hc
  · have hhead : (opened b ++ c).toList.head? = b.toList.head? := by
      unfold opened
      cases hcs : b.toList with
      | nil => exact absurd (by simpa using hcs) h
      | cons x cs => split <;> simp [hcs]
    unfold isAbsolute at hb ⊢
    rw [hhead, hb]

/-- A relative path and one below it are put below a path one by one or together. -/
theorem join_join (a : Path) (hb : isAbsolute b = false) (hc : isAbsolute c = false) :
    join (join a b) c = join a (join b c) := by
  rw [join_of_relative a (isAbsolute_join hb hc), join_of_relative _ hc, join_of_relative a hb,
    join_of_relative b hc, opened_append, String.append_assoc]

theorem components_join (a : Path) (hb : isAbsolute b = false) :
    components (join a b) = components a ++ components b := by
  rcases join_cases a hb with ⟨rfl, hj⟩ | ⟨above, hj, ha⟩
  · rw [hj]
    rfl
  · show (FileStore.partsOf (join a b)).filter _ = _
    rw [FileStore.partsOf_append hj, List.filter_append]
    refine congrArg (· ++ components b) ?_
    rcases ha with ⟨rfl, -⟩ | hend
    · rfl
    · unfold components
      rw [← hend, pieces_append (by rfl), List.map_append, List.filter_append]
      exact (List.append_nil _).symm

theorem within_join_iff {dir r : Path} (hr : isAbsolute r = false) :
    Within dir (join dir r) ↔ staysBelow 0 (components r) = true := by
  constructor
  · rintro ⟨r', hr', hj, hs⟩
    rwa [join_right_injective hr hr' hj]
  · exact fun hs => ⟨r, hr, rfl, hs⟩

end Path

namespace FileStore

variable {s : FileStore} {q d : Place}

/-- A way that stays below leads below: `rest` is what has been walked. -/
theorem foldlM_of_staysBelow {parts : List String} (rest : Place)
    (hs : Path.staysBelow rest.length (parts.filter fun c => !c.isEmpty && c != ".") = true)
    (h : parts.foldlM s.stepTo (d ++ rest) = .ok q) : ∃ rest', q = d ++ rest' := by
  induction parts generalizing rest with
  | nil => exact ⟨rest, (Except.ok.inj h).symm⟩
  | cons name parts ih =>
    rw [List.foldlM_cons] at h
    cases hstep : s.stepTo (d ++ rest) name with
    | error e =>
      rw [hstep] at h
      cases h
    | ok p =>
      rw [hstep] at h
      rcases stepTo_cases hstep with ⟨hstay, rfl⟩ | ⟨rfl, rfl⟩ | ⟨hempty, hdot, hup, rfl⟩
      · rw [List.filter_cons_of_neg (by rcases hstay with rfl | rfl <;> decide)] at hs
        exact ih rest hs h
      · rw [List.filter_cons_of_pos (by decide)] at hs
        -- what has been walked is not empty, and the step takes its end away
        have hne : rest ≠ [] := by
          rintro rfl
          cases hs
        rw [List.dropLast_append_of_ne_nil hne] at h
        refine ih rest.dropLast ?_ h
        rw [List.length_dropLast]
        obtain ⟨n, hn⟩ := Nat.exists_eq_succ_of_ne_zero (mt List.length_eq_zero_iff.1 hne)
        rw [hn] at hs ⊢
        rwa [Path.staysBelow_dots] at hs
      · rw [List.filter_cons_of_pos (by simp [hempty, hdot]), Path.staysBelow_name hup] at hs
        rw [List.append_assoc] at h
        exact ih (rest ++ [name]) (by rwa [List.length_append]) h

/-- **A path inside a directory leads to a place below it.** -/
theorem locate_of_within {dir p : Path} (hw : Path.Within dir p) (h : s.locate p = .ok q) :
    ∃ d rest, s.baseOf dir = .ok d ∧ q = d ++ rest := by
  obtain ⟨r, hr, rfl, hs⟩ := hw
  obtain ⟨d, hd, hwalk⟩ := locate_join_relative hr h
  rw [← List.append_nil d] at hwalk
  obtain ⟨rest, hq⟩ := foldlM_of_staysBelow [] hs hwalk
  exact ⟨d, rest, hd, hq⟩

end FileStore
end MailBrowser
