import Mathlib.Data.List.DropRight
import MailBrowser.Text.Blank

/-!
# Stripping and trimming

* `strip_eq_self_iff`   what stays as it is neither begins nor ends with a character of the class;
* `strip_snoc`       a character of the class at the end makes no difference;
* `strip_strip`, `trim_trim`   what has been stripped stays as it is;
* `strip_of_trim`    a text without outer blanks, read as its characters.
-/

namespace MailBrowser.Text

theorem dropWhile_strip (p : Char → Bool) (cs : List Char) :
    (strip p cs).dropWhile p = strip p cs := by
  have hpre : strip p cs <+: cs.dropWhile p := List.rdropWhile_prefix p _
  cases hm : strip p cs with
  | nil => rfl
  | cons c m =>
    rw [hm] at hpre
    obtain ⟨rest, hr⟩ := hpre
    have hc := List.head?_dropWhile_not p cs
    rw [← hr] at hc
    exact List.dropWhile_cons_of_neg (by simpa using hc)

theorem strip_strip (p : Char → Bool) (cs : List Char) : strip p (strip p cs) = strip p cs := by
  have h : strip p (strip p cs) = dropEndWhile p (strip p cs) :=
    congrArg (dropEndWhile p) (dropWhile_strip p cs)
  exact h.trans (List.rdropWhile_idempotent p _)

theorem dropWhile_eq_self_iff {p : Char → Bool} {cs : List Char} :
    cs.dropWhile p = cs ↔ ∀ c ∈ cs.head?, p c = false := by
  cases cs with
  | nil => simp
  | cons c cs =>
    rw [List.head?_cons]
    constructor
    · rintro h d ⟨⟩
      have hnot := List.head?_dropWhile_not p (c :: cs)
      rw [h] at hnot
      simpa using hnot
    · intro h
      exact List.dropWhile_cons_of_neg (by rw [h c rfl]; exact Bool.false_ne_true)

theorem dropEndWhile_eq_self_iff {p : Char → Bool} {cs : List Char} :
    dropEndWhile p cs = cs ↔ ∀ c ∈ cs.getLast?, p c = false := by
  unfold dropEndWhile
  rw [List.reverse_eq_iff, dropWhile_eq_self_iff, List.head?_reverse]

theorem strip_eq_self_iff {p : Char → Bool} {cs : List Char} :
    strip p cs = cs ↔ (∀ c ∈ cs.head?, p c = false) ∧ ∀ c ∈ cs.getLast?, p c = false := by
  rw [← dropWhile_eq_self_iff, ← dropEndWhile_eq_self_iff]
  constructor
  · intro h
    have hfront := dropWhile_strip p cs
    rw [h] at hfront
    exact ⟨hfront, by rwa [strip, hfront] at h⟩
  · rintro ⟨hfront, hend⟩
    rw [strip, hfront, hend]

theorem strip_sublist (p : Char → Bool) (cs : List Char) : (strip p cs).Sublist cs :=
  (List.rdropWhile_prefix p _).sublist.trans (List.dropWhile_sublist p)

theorem strip_snoc {p : Char → Bool} {c : Char} (hc : p c = true) (cs : List Char) :
    strip p (cs ++ [c]) = strip p cs := by
  unfold strip
  rw [List.dropWhile_append]
  split
  · next hnone =>
    rw [List.isEmpty_iff.1 hnone, List.dropWhile_cons_of_pos hc]
    rfl
  · exact List.rdropWhile_concat_pos p _ c hc

theorem trim_trim (s : String) : trim (trim s) = trim s := by
  unfold trim
  rw [String.toList_ofList, strip_strip]

theorem trim_empty : trim "" = "" := rfl

theorem strip_of_trim {s : String} (h : trim s = s) : strip isBlank s.toList = s.toList := by
  rw [← String.toList_ofList (l := strip isBlank s.toList)]
  exact congrArg String.toList h

end MailBrowser.Text
