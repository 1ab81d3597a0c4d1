import Mathlib.Algebra.Ring.Nat
import MailBrowser.Proofs.Calendar.Periods

/-!
# Reading numerals

* `digitsValue_digits`, `digitsValue_fixed`, `digitsValue_padded`   a numeral denotes its number;
* `takeWhile_isDigit`, `dropWhile_isDigit`   the digits at the head of a text;
* `append_sep_inj`                 the parts before and after the last mark of a text.
-/

namespace MailBrowser
namespace Text

/-! ## values -/

theorem digitsValue_eq (cs : List Char) : digitsValue cs = Nat.ofDigitChars 10 cs 0 := rfl

theorem digitsValue_append_singleton (cs : List Char) (c : Char) :
    digitsValue (cs ++ [c]) = 10 * digitsValue cs + digitValue c := by
  unfold digitsValue
  rw [List.foldl_append]
  rfl

theorem digitsValue_digits (n : Nat) : digitsValue (digits n) = n :=
  Nat.ofDigitChars_ten_toDigits

theorem digitsValue_padded (w n : Nat) : digitsValue (padded w n) = n := by
  unfold padded
  rw [digitsValue_eq, Nat.ofDigitChars_append, Nat.ofDigitChars_replicate_zero, Nat.mul_zero]
  exact digitsValue_digits n

theorem digitsValue_fixed {w n : Nat} (h : n < 10 ^ w) : digitsValue (fixed w n) = n := by
  unfold fixed
  induction w generalizing n with
  | zero =>
    rw [Nat.pow_zero] at h
    obtain rfl : n = 0 := by omega
    rfl
  | succ w ih =>
    have hdigit : ∀ m < 10, digitValue (digitChar m) = m := by decide
    have hn : n / 10 < 10 ^ w := by
      rw [Nat.pow_succ] at h
      omega
    unfold fixedIn
    rw [digitsValue_append_singleton, ih hn, hdigit _ (Nat.mod_lt n (by decide))]
    omega

theorem length_fixed (w n : Nat) : (fixed w n).length = w := length_fixedIn 10 w n

theorem fixed_ne_nil (w n : Nat) : fixed (w + 1) n ≠ [] := by
  intro h
  have hl := length_fixed (w + 1) n
  rw [h] at hl
  cases hl

theorem isDigit_of_mem_digits {n : Nat} {c : Char} (h : c ∈ digits n) : c.isDigit = true :=
  Nat.isDigit_of_mem_toDigits (by decide) (by decide) h

theorem digits_injective {m n : Nat} (h : digits m = digits n) : m = n := by
  rw [← digitsValue_digits m, h, digitsValue_digits]

/-- A numeral with a zero at its head is that of zero. -/
theorem digits_zero_head {n : Nat} {r : List Char} (h : digits n = '0' :: r) : n = 0 := by
  unfold digits at h
  induction n using Nat.strongRecOn generalizing r with
  | ind n ih =>
    rw [Nat.toDigits_eq_if (by decide)] at h
    split at h
    · rename_i hn
      have hhead : ∀ m < 10, m.digitChar = '0' → m = 0 := by decide
      exact hhead n hn (List.cons.inj h).1
    · cases hq : Nat.toDigits 10 (n / 10) with
      | nil => exact absurd hq Nat.toDigits_ne_nil
      | cons c cs =>
        rw [hq, List.cons_append] at h
        rw [(List.cons.inj h).1] at hq
        have hzero := ih (n / 10) (by omega) hq
        omega

/-! ## digits at the head of a text -/

/-- a text whose first character is no digit -/
def NoDigitFirst (cs : List Char) : Prop := ∀ c ∈ cs.head?, c.isDigit = false

theorem takeWhile_isDigit {ds r : List Char} (hd : ∀ c ∈ ds, c.isDigit = true)
    (hr : NoDigitFirst r) : (ds ++ r).takeWhile Char.isDigit = ds := by
  rw [List.takeWhile_append_of_pos hd]
  cases r with
  | nil => simp
  | cons c r => simp [hr c rfl]

theorem dropWhile_isDigit {ds r : List Char} (hd : ∀ c ∈ ds, c.isDigit = true)
    (hr : NoDigitFirst r) : (ds ++ r).dropWhile Char.isDigit = r := by
  rw [List.dropWhile_append_of_pos hd]
  cases r with
  | nil => rfl
  | cons c r => simp [hr c rfl]

/-! ## parts around a mark -/

/-- Texts are cut at the last mark in one way only. -/
theorem append_sep_inj {α : Type} {c : α} {a b a' b' : List α}
    (h : a ++ c :: b = a' ++ c :: b') (hb : c ∉ b) (hb' : c ∉ b') : a = a' ∧ b = b' := by
  rcases List.append_eq_append_iff.1 h with ⟨m, rfl, hm⟩ | ⟨m, rfl, hm⟩
  · cases m with
    | nil => exact ⟨(List.append_nil a).symm, (List.cons.inj hm).2⟩
    | cons x m =>
      obtain ⟨-, rfl⟩ := List.cons.inj hm
      exact absurd (List.mem_append_right m List.mem_cons_self) hb
  · cases m with
    | nil => exact ⟨List.append_nil a', (List.cons.inj hm).2.symm⟩
    | cons x m =>
      obtain ⟨-, rfl⟩ := List.cons.inj hm
      exact absurd (List.mem_append_right m List.mem_cons_self) hb'

end Text
end MailBrowser
