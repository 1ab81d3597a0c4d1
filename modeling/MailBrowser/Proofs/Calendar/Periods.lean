import MailBrowser.Group.Dimension
import MailBrowser.Proofs.Calendar.Days
import MailBrowser.Proofs.Text.LowerCase

/-!
# Time buckets

* `Granularity.noCapitals_period`   the keys of buckets have no capitals;
* `Granularity.period_ne`           buckets of two sizes never have one key;
* `Granularity.period_coarser`      what is in one bucket is in one bucket of every larger size;
* `Granularity.exists_outside`      a bucket is never the whole of a larger one.
-/

namespace MailBrowser
open Text

/-! ## digits -/

theorem isDigit_of_mem_fixed {w n : Nat} {c : Char} (h : c ∈ fixed w n) : c.isDigit = true := by
  unfold fixed at h
  induction w generalizing n with
  | zero => cases h
  | succ w ih =>
    rcases List.mem_append.1 h with h | h
    · exact ih h
    · rw [List.mem_singleton.1 h]
      have hall : ∀ n < 10, (digitChar n).isDigit = true := by decide
      exact hall _ (Nat.mod_lt n (by decide))

theorem isDigit_of_mem_padded {w n : Nat} {c : Char} (h : c ∈ padded w n) : c.isDigit = true := by
  rcases List.mem_append.1 h with h | h
  · rw [List.eq_of_mem_replicate h]
    decide
  · exact Nat.isDigit_of_mem_toDigits (by decide) (by decide) h

/-- A year is a sign or a digit, and then digits. -/
theorem yearChars_eq_cons (y : Int) :
    ∃ c cs, yearChars y = c :: cs ∧ c.isUpper = false ∧ ∀ x ∈ cs, x.isDigit = true := by
  unfold yearChars
  split
  · have hl : (fixed 4 y.toNat).length = 4 := length_fixedIn 10 4 y.toNat
    cases hcs : fixed 4 y.toNat with
    | nil =>
      rw [hcs] at hl
      cases hl
    | cons c cs =>
      have hd : ∀ x ∈ c :: cs, x.isDigit = true := fun x hx => isDigit_of_mem_fixed (hcs ▸ hx)
      exact ⟨c, cs, rfl, isUpper_of_isDigit (hd c List.mem_cons_self), fun x hx =>
        hd x (List.mem_cons_of_mem c hx)⟩
  · refine ⟨_, _, rfl, ?_, fun x hx => isDigit_of_mem_padded hx⟩
    split <;> decide

namespace Granularity

theorem noCapitals_period (g : Granularity) (t : Instant) : NoCapitals (g.period t) := by
  intro x hx
  unfold period at hx
  rw [String.toList_ofList] at hx
  obtain ⟨c, cs, hyear, hc, hcs⟩ := yearChars_eq_cons t.date.year
  have hy : ∀ x ∈ yearChars t.date.year, x.isUpper = false := fun x hx => by
    rw [hyear] at hx
    rcases List.mem_cons.1 hx with rfl | hx
    · exact hc
    · exact isUpper_of_isDigit (hcs x hx)
  have hpart : ∀ n, ∀ x ∈ '-' :: fixed 2 n, x.isUpper = false := fun n x hx => by
    rcases List.mem_cons.1 hx with rfl | hx
    · decide
    · exact isUpper_of_isDigit (isDigit_of_mem_fixed hx)
  have hm : ∀ x ∈ t.date.monthChars, x.isUpper = false := fun x hx =>
    (List.mem_append.1 hx).elim (hy x) (hpart _ x)
  cases g with
  | year => exact hy x hx
  | month => exact hm x hx
  | day => exact (List.mem_append.1 hx).elim (hm x) (hpart _ x)

/-! ## sizes -/

/-- how many parts the key of a bucket has after the year -/
def depth : Granularity → Nat
  | year => 0
  | month => 1
  | day => 2

theorem depth_inj {g g' : Granularity} (h : g.depth = g'.depth) : g = g' := by
  cases g <;> cases g' <;> first
    | rfl
    | cases h

/-- The dashes after the first character are those between the parts. -/
theorem count_dashes (g : Granularity) (t : Instant) :
    (g.periodChars t.date).tail.count '-' = g.depth := by
  obtain ⟨c, cs, hyear, -, hcs⟩ := yearChars_eq_cons t.date.year
  have hnone : ∀ ds : List Char, (∀ x ∈ ds, x.isDigit = true) → ds.count '-' = 0 := fun ds hd =>
    List.count_eq_zero.2 fun hx => absurd (hd _ hx) (by decide)
  have hpart : ∀ n, ('-' :: fixed 2 n).count '-' = 1 := fun n => by
    rw [List.count_cons_self, hnone _ fun x hx => isDigit_of_mem_fixed hx]
  cases g with
  | year =>
    show (yearChars t.date.year).tail.count '-' = 0
    rw [hyear]
    exact hnone cs hcs
  | month =>
    show (yearChars t.date.year ++ '-' :: fixed 2 t.date.month).tail.count '-' = 1
    rw [hyear, List.cons_append, List.tail_cons, List.count_append, hnone cs hcs, hpart]
  | day =>
    show (yearChars t.date.year ++ '-' :: fixed 2 t.date.month ++
      '-' :: fixed 2 t.date.day).tail.count '-' = 2
    rw [hyear, List.cons_append, List.cons_append, List.tail_cons, List.count_append,
      List.count_append, hnone cs hcs, hpart, hpart]

theorem period_ne {g g' : Granularity} (h : g ≠ g') (t t' : Instant) :
    g.period t ≠ g'.period t' := by
  intro e
  have hchars : g.periodChars t.date = g'.periodChars t'.date := String.ofList_injective e
  refine h (depth_inj ?_)
  rw [← g.count_dashes t, ← g'.count_dashes t', hchars]

/-! ## buckets within buckets -/

theorem append_part_inj {as bs : List Char} {m n : Nat}
    (h : as ++ '-' :: fixed 2 m = bs ++ '-' :: fixed 2 n) :
    as = bs ∧ fixed 2 m = fixed 2 n := by
  have hl : ('-' :: fixed 2 m).length = ('-' :: fixed 2 n).length :=
    congrArg (· + 1) ((length_fixedIn 10 2 m).trans (length_fixedIn 10 2 n).symm)
  obtain ⟨hs, hp⟩ := List.append_inj' h hl
  exact ⟨hs, (List.cons.inj hp).2⟩

theorem period_coarser {g g' : Granularity} (h : g.depth ≤ g'.depth) {t t' : Instant}
    (he : g'.period t = g'.period t') : g.period t = g.period t' := by
  have hchars : g'.periodChars t.date = g'.periodChars t'.date := String.ofList_injective he
  suffices hg : g.periodChars t.date = g.periodChars t'.date from congrArg String.ofList hg
  cases g' with
  | year =>
    cases g with
    | year => exact hchars
    | month | day => cases h
  | month =>
    cases g with
    | year => exact (append_part_inj hchars).1
    | month => exact hchars
    | day => exact absurd h (by decide)
  | day =>
    have hmonth := (append_part_inj hchars).1
    cases g with
    | year => exact (append_part_inj hmonth).1
    | month => exact hmonth
    | day => exact hchars

theorem fixed_two_inj {m n : Nat} (hm : m < 100) (hn : n < 100) (h : fixed 2 m = fixed 2 n) :
    m = n := by
  have hvalue : ∀ n < 100, digitsValue (fixed 2 n) = n := by decide
  rw [← hvalue m hm, ← hvalue n hn, h]

theorem period_month_ne {t t' : Instant} (h : t'.date.month ≠ t.date.month) :
    month.period t' ≠ month.period t := by
  intro e
  have hb := t.date.month_mem
  have hb' := t'.date.month_mem
  exact h (fixed_two_inj (by omega) (by omega) (append_part_inj (String.ofList_injective e)).2)

theorem daysIn_lt (year : Int) (month : Nat) : daysIn year month < 100 := by
  unfold daysIn
  repeat' split
  all_goals decide

theorem period_day_ne {t t' : Instant} (h : t'.date.day ≠ t.date.day) :
    day.period t' ≠ day.period t := by
  intro e
  have hb := Nat.lt_of_le_of_lt t.date.day_mem.2 (daysIn_lt _ _)
  have hb' := Nat.lt_of_le_of_lt t'.date.day_mem.2 (daysIn_lt _ _)
  exact h (fixed_two_inj hb' hb (append_part_inj (String.ofList_injective e)).2)

theorem exists_outside {g g' : Granularity} (h : g.depth < g'.depth) (t : Instant) :
    ∃ t' : Instant, g.period t' = g.period t ∧ g'.period t' ≠ g'.period t := by
  cases g with
  | year =>
    obtain ⟨t', hy, hm⟩ := t.exists_other_month
    have hyear : year.period t' = year.period t :=
      congrArg (fun y => String.ofList (yearChars y)) hy
    have hmonth := period_month_ne hm
    cases g' with
    | year => exact absurd h (by decide)
    | month => exact ⟨t', hyear, hmonth⟩
    | day => exact ⟨t', hyear, fun e => hmonth (period_coarser (by decide) e)⟩
  | month =>
    obtain ⟨t', hy, hm, hd⟩ := t.exists_other_day
    have hmonth : month.period t' = month.period t := by
      show String.ofList (yearChars t'.date.year ++ '-' :: fixed 2 t'.date.month) = _
      rw [hy, hm]
      rfl
    cases g' with
    | year | month => exact absurd h (by decide)
    | day => exact ⟨t', hmonth, period_day_ne hd⟩
  | day => cases g' <;> exact absurd h (by decide)

end Granularity
end MailBrowser
