import MailBrowser.Mail.Address
import MailBrowser.Proofs.Text.Trimming

/-!
# Addresses that are shown and read

A name stands before its address, and the address in brackets.  The name is found up to the first
opening bracket, and the address between this bracket and the last closing one, so that only an
opening bracket in the name can mislead the reader.

* `beforeFirst?_mark`, `bracketed?_enclosed`   what is found of a text with one address at its end;
* `Address.Legible`      the addresses that are shown without loss;
* `Address.ofText_shown`   such an address is read back from the text that shows it;
* `Address.legible_of_ofText_shown`   of the addresses with a name no others are.
-/

namespace MailBrowser
open Text

/-! ## the mark and the brackets -/

theorem bne_of_not_mem {c : Char} {cs : List Char} (h : c ∉ cs) : ∀ x ∈ cs, (x != c) = true :=
  fun _ hx => bne_iff_ne.2 fun e => h (e ▸ hx)

theorem beforeFirst?_mark {c : Char} {before : List Char} (h : c ∉ before) (after : List Char) :
    beforeFirst? c (before ++ c :: after) = some before := by
  unfold beforeFirst?
  rw [if_pos (List.mem_append_right before List.mem_cons_self),
    List.takeWhile_append_of_pos (bne_of_not_mem h), List.takeWhile_cons_of_neg (by simp),
    List.append_nil]

/-- Marks inside the brackets do not count. -/
theorem bracketed?_enclosed {before : List Char} (h : '<' ∉ before) (inside : List Char) :
    bracketed? (before ++ '<' :: (inside ++ ['>'])) = some inside := by
  have hopen : (before ++ '<' :: (inside ++ ['>'])).dropWhile (· != '<') =
      '<' :: (inside ++ ['>']) := by
    rw [List.dropWhile_append_of_pos (bne_of_not_mem h), List.dropWhile_cons_of_neg (by simp)]
  have hclose : (inside ++ ['>']).reverse.dropWhile (· != '>') = '>' :: inside.reverse := by
    rw [List.reverse_append]
    rfl
  unfold bracketed?
  rw [hopen]
  dsimp only
  rw [if_pos (List.mem_append_right inside List.mem_cons_self), hclose, List.tail_cons,
    List.reverse_reverse]

theorem bracketed?_of_not_mem {cs : List Char} (h : '<' ∉ cs) : bracketed? cs = none := by
  unfold bracketed?
  rw [List.dropWhile_eq_nil_iff.2 (bne_of_not_mem h)]

namespace Address

/-- The name and the address have no outer blanks, and the name no outer quotes; no opening bracket
stands before the one that is put around the address. -/
structure Legible (a : Address) : Prop where
  email_trimmed : trim a.email = a.email
  name_trimmed : trim a.name = a.name
  name_begins : a.name.toList.head? ≠ some '\x22'
  name_ends : a.name.toList.getLast? ≠ some '\x22'
  name_open : '<' ∉ a.name.toList
  bare_open : a.name = "" → '<' ∉ a.email.toList

variable {a : Address}

theorem email_ofText (s : String) : (ofText s).email = emailOf s := rfl

theorem name_ofText (s : String) : (ofText s).name = nameOf s := rfl

theorem toList_shown_of_name (h : a.name ≠ "") :
    a.shown.toList = (a.name.toList ++ [' ']) ++ '<' :: (a.email.toList ++ ['>']) := by
  unfold shown
  rw [if_neg (mt String.isEmpty_iff.1 h)]
  simp [String.toList_append]

theorem shown_of_bare (h : a.name = "") : a.shown = a.email := by
  unfold shown
  rw [h]
  rfl

/-- The blank that is put before the bracket is no bracket. -/
theorem open_not_mem_snoc (h : '<' ∉ a.name.toList) : '<' ∉ a.name.toList ++ [' '] := fun hc =>
  (List.mem_append.1 hc).elim h fun hb => nomatch List.mem_singleton.1 hb

/-- What is read as the name of a shown address, quotes around it apart. -/
theorem nameOf_shown_of_name (hn : a.name ≠ "") (h : '<' ∉ a.name.toList) :
    nameOf a.shown = .ofList (strip (· == '\x22') (strip isBlank a.name.toList)) := by
  rw [nameOf, toList_shown_of_name hn, beforeFirst?_mark (open_not_mem_snoc h)]
  dsimp only
  rw [strip_snoc rfl]

namespace Legible

variable (h : a.Legible)
include h

theorem emailOf_shown : emailOf a.shown = a.email := by
  have hbracket : (bracketed? a.shown.toList).getD a.shown.toList = a.email.toList := by
    by_cases hn : a.name = ""
    · rw [shown_of_bare hn, bracketed?_of_not_mem (h.bare_open hn)]
      rfl
    · rw [toList_shown_of_name hn, bracketed?_enclosed (open_not_mem_snoc h.name_open)]
      rfl
  rw [emailOf, hbracket, strip_of_trim h.email_trimmed, String.ofList_toList]

theorem nameOf_shown : nameOf a.shown = a.name := by
  by_cases hn : a.name = ""
  · have hnone : beforeFirst? '<' a.shown.toList = none := by
      rw [shown_of_bare hn]
      exact if_neg (h.bare_open hn)
    rw [nameOf, hnone, hn]
  · have hquote : strip (· == '\x22') a.name.toList = a.name.toList :=
      strip_eq_self_iff.2 ⟨fun c hc => beq_eq_false_iff_ne.2 fun e => h.name_begins (e ▸ hc),
        fun c hc => beq_eq_false_iff_ne.2 fun e => h.name_ends (e ▸ hc)⟩
    rw [nameOf_shown_of_name hn h.name_open, strip_of_trim h.name_trimmed, hquote,
      String.ofList_toList]

end Legible

/-- **An address is read back from the text that shows it.** -/
theorem ofText_shown (h : a.Legible) : ofText a.shown = a := by
  unfold ofText
  rw [h.emailOf_shown, h.nameOf_shown]

/-- Closing brackets, quotes inside, a comma and an opening bracket in the address. -/
theorem ofText_shown_of_brackets :
    let a : Address := ⟨"<ann>@example.com>", "Ann \x22A>\x22 Café, Dr."⟩
    a.Legible ∧ a.shown = "Ann \x22A>\x22 Café, Dr. <<ann>@example.com>>" ∧ ofText a.shown = a := by
  intro a
  have ha : a.Legible := by constructor <;> decide +kernel
  exact ⟨ha, by decide +kernel, ofText_shown ha⟩

/-! ## the addresses that are lost -/

theorem trim_emailOf (s : String) : trim (emailOf s) = emailOf s := by
  rw [trim, emailOf, String.toList_ofList, strip_strip]

theorem open_not_mem_nameOf (s : String) : '<' ∉ (nameOf s).toList := by
  unfold nameOf beforeFirst?
  split
  · next cs hcs =>
    obtain ⟨-, hcs⟩ := Option.ite_none_right_eq_some.1 hcs
    rw [String.toList_ofList, ← Option.some.inj hcs]
    intro hm
    have hm := (strip_sublist isBlank _).subset ((strip_sublist _ _).subset hm)
    exact absurd (List.mem_takeWhile_imp hm) (by simp)
  · exact List.not_mem_nil

/-- **No other address with a name is read back.** -/
theorem legible_of_ofText_shown (hn : a.name ≠ "") (h : ofText a.shown = a) : a.Legible := by
  have hemail : emailOf a.shown = a.email := by rw [← email_ofText, h]
  have hname : nameOf a.shown = a.name := by rw [← name_ofText, h]
  have hopen : '<' ∉ a.name.toList := by
    rw [← hname]
    exact open_not_mem_nameOf _
  have hstrip : strip (· == '\x22') (strip isBlank a.name.toList) = a.name.toList := by
    rw [← String.toList_ofList (l := strip _ _), ← nameOf_shown_of_name hn hopen, hname]
  -- Stripping twice gives the whole name back, so that neither time anything was taken away.
  have hblank : strip isBlank a.name.toList = a.name.toList := by
    have hsub := strip_sublist (· == '\x22') (strip isBlank a.name.toList)
    rw [hstrip] at hsub
    exact (strip_sublist isBlank a.name.toList).antisymm hsub
  rw [hblank] at hstrip
  obtain ⟨hbegins, hends⟩ := strip_eq_self_iff.1 hstrip
  exact {
    email_trimmed := by rw [← hemail, trim_emailOf]
    name_trimmed := by rw [trim, hblank, String.ofList_toList]
    name_begins := fun e => absurd (hbegins _ e) (by simp)
    name_ends := fun e => absurd (hends _ e) (by simp)
    name_open := hopen
    bare_open := fun e => absurd e hn }

end Address
end MailBrowser
