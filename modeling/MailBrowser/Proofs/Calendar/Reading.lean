import MailBrowser.Calendar.Reading
import MailBrowser.Proofs.Text.Numerals

/-!
# What is written is read

The day number of a date is that of the day it was made from, and the written form of an instant is
read as that instant, leap seconds and years outside four digits included.

* `Date.toDays_ofDays`       the number of the date of a day;
* `Instant.year_date`        the years that instants have;
* `Calendar.dateFields?_chars`, `Calendar.timeFields?_chars`   the parts of a written instant;
* `Instant.read?_written`    the whole.
-/

namespace MailBrowser
open Text

/-! ## day numbers -/

namespace Date

theorem marchYear_div (era : Int) {p : CyclePlace} (hc : p.century ≤ 3) (hq : p.quad ≤ 24)
    (hy : p.year ≤ 3) :
    marchYear era p / 400 = era ∧
      marchYear era p % 400 = (100 * p.century + 4 * p.quad + p.year : Nat) := by
  unfold marchYear
  omega

theorem toDays_ofDays (z : Int) : (ofDays z).toDays = z := by
  obtain ⟨hc, hq, hy, hd, hz⟩ := place_bounds z
  obtain ⟨hs, hm⟩ := marchMonthStart_marchMonth hd
  obtain ⟨hera, hyoe⟩ := marchYear_div (era z) hc hq hy
  have hyear : (if (ofDays z).month ≤ 2 then (ofDays z).year - 1 else (ofDays z).year) =
      marchYear (era z) (place z) := by
    rw [year_ofDays, month_ofDays]
    unfold yearOfMarch
    split <;> omega
  have hmonth : (if (ofDays z).month ≤ 2 then (ofDays z).month + 9 else (ofDays z).month - 3) =
      marchMonth (place z).day := by
    rw [month_ofDays]
    unfold monthOfMarch
    split <;> split <;> omega
  have hquads : ((100 * (place z).century + 4 * (place z).quad + (place z).year : Nat) : Int) / 4 =
      25 * (place z).century + (place z).quad := by omega
  have hcenturies : ((100 * (place z).century + 4 * (place z).quad + (place z).year : Nat) : Int) /
      100 = (place z).century := by omega
  unfold toDays
  dsimp only
  rw [hyear, hmonth, hera, hyoe, hquads, hcenturies, day_ofDays]
  unfold marchShift
  omega

theorem ofDays_injective {z z' : Int} (h : ofDays z = ofDays z') : z = z' := by
  rw [← toDays_ofDays z, h, toDays_ofDays]

/-- January and February are the last months of a year from March. -/
theorem monthOfMarch_le_two {day : Nat} (h : day ≤ 365) :
    monthOfMarch (marchMonth day) ≤ 2 ↔ 306 ≤ day := by
  unfold monthOfMarch marchMonth
  split <;> omega

/-- The days that are kept are of the years that are kept. -/
theorem year_mem_of_kept {z : Int} (h : Kept z) :
    firstYear ≤ (ofDays z).year ∧ (ofDays z).year ≤ lastYear := by
  obtain ⟨hc, hq, hy, hd, hz⟩ := place_bounds z
  obtain ⟨hfirst, hlast⟩ := h
  rw [year_ofDays]
  unfold yearOfMarch marchYear firstYear lastYear
  simp only [monthOfMarch_le_two hd]
  split
  · refine ⟨by omega, Decidable.byContradiction fun h => ?_⟩
    -- the first of January after the last year is the day after the last that is kept
    have hera : era z = 655 := by omega
    have hcentury : (place z).century = 1 := by omega
    have hquad : (place z).quad = 10 := by omega
    omega
  · omega

theorem make?_self (d : Date) (h : firstYear ≤ d.year ∧ d.year ≤ lastYear) :
    make? d.year d.month d.day = some d := by
  unfold make?
  rw [dif_pos ⟨d.month_mem, d.day_mem⟩, if_pos h]

end Date

theorem Instant.year_date (t : Instant) :
    Date.firstYear ≤ t.date.year ∧ t.date.year ≤ Date.lastYear :=
  Date.year_mem_of_kept t.kept_day

/-! ## parts of a written instant -/

namespace Calendar

theorem isBlank_of_isDigit {c : Char} (h : c.isDigit = true) : isBlank c = false := by
  have hlow : 48 ≤ c.toNat := (Char.isDigit_iff_toNat.1 h).1
  have hhigh : c.toNat ≤ 57 := (Char.isDigit_iff_toNat.1 h).2
  simp only [isBlank, inRuns, blankRuns, List.any_cons, List.any_nil, Bool.or_eq_false_iff,
    Bool.and_eq_false_iff, decide_eq_false_iff_not, and_true]
  omega

theorem skipBlanks_cons {c : Char} (h : isBlank c = false) (r : List Char) :
    skipBlanks (c :: r) = c :: r := by
  unfold skipBlanks
  rw [List.dropWhile_cons, h]
  rfl

theorem skipBlanks_digits {ds : List Char} (hd : ∀ c ∈ ds, c.isDigit = true) (hne : ds ≠ [])
    (r : List Char) : skipBlanks (ds ++ r) = ds ++ r := by
  cases ds with
  | nil => exact absurd rfl hne
  | cons c cs => exact skipBlanks_cons (isBlank_of_isDigit (hd c List.mem_cons_self)) _

theorem mark?_self {c : Char} (h : isBlank c = false) (loose : Bool) (r : List Char) :
    mark? loose c (c :: r) = some ((), r) := by
  unfold mark?
  rw [skipBlanks_cons h, ite_self]
  exact if_pos rfl

theorem number?_append {limit : Nat} {ds r : List Char} (hd : ∀ c ∈ ds, c.isDigit = true)
    (hne : ds ≠ []) (hl : ds.length ≤ limit) (hr : NoDigitFirst (r.take (limit - ds.length))) :
    number? limit (ds ++ r) = some (digitsValue ds, r) := by
  unfold number?
  rw [List.take_append, List.take_of_length_le hl, takeWhile_isDigit hd hr]
  cases ds with
  | nil => exact absurd rfl hne
  | cons c cs => simp

theorem field?_fixed {n : Nat} (h : n < 100) (r : List Char) :
    field? 2 (fixed 2 n ++ r) = some (n, r) := by
  have hd : ∀ c ∈ fixed 2 n, c.isDigit = true := fun _ => isDigit_of_mem_fixed
  unfold field?
  rw [skipBlanks_digits hd (fixed_ne_nil 1 n), number?_append hd (fixed_ne_nil 1 n)
    (Nat.le_of_eq (length_fixed 2 n)) (by simp [length_fixed, NoDigitFirst]), digitsValue_fixed h]

theorem padded_ne_nil (w n : Nat) : padded w n ≠ [] := by
  intro h
  exact Nat.toDigits_ne_nil (List.append_eq_nil_iff.1 h).2

theorem number?_padded (w n : Nat) (r : List Char) :
    number? (padded w n ++ '-' :: r).length (padded w n ++ '-' :: r) = some (n, '-' :: r) := by
  rw [number?_append (fun _ => isDigit_of_mem_padded) (padded_ne_nil w n) (by simp)
    (by simp [NoDigitFirst]), digitsValue_padded]

/-- A year with four digits begins with one, so that no sign is read. -/
theorem year?_of_digit {c : Char} (h : c.isDigit = true) (r : List Char) :
    year? (c :: r) = (number? 4 (c :: r)).map fun (n, r) => ((n : Int), r) := by
  unfold year?
  rw [skipBlanks_cons (isBlank_of_isDigit h)]
  split
  · rename_i e
    rw [(List.cons.inj e).1] at h
    exact absurd h (by decide)
  · rename_i e
    rw [(List.cons.inj e).1] at h
    exact absurd h (by decide)
  · rfl

theorem year?_yearChars (y : Int) (r : List Char) :
    year? (yearChars y ++ '-' :: r) = some (y, '-' :: r) := by
  unfold yearChars
  split
  · rename_i hy
    have hd : ∀ c ∈ fixed 4 y.toNat, c.isDigit = true := fun _ => isDigit_of_mem_fixed
    have hnum : number? 4 (fixed 4 y.toNat ++ '-' :: r) = some (y.toNat, '-' :: r) := by
      rw [number?_append hd (fixed_ne_nil 3 _) (Nat.le_of_eq (length_fixed 4 _))
        (by simp [length_fixed, NoDigitFirst]), digitsValue_fixed (by omega)]
    cases hcs : fixed 4 y.toNat with
    | nil => exact absurd hcs (fixed_ne_nil 3 _)
    | cons c cs =>
      rw [hcs] at hd hnum
      rw [List.cons_append, year?_of_digit (hd c List.mem_cons_self), ← List.cons_append, hnum]
      simp only [Option.map_some, Int.toNat_of_nonneg hy.1]
  · have hread := number?_padded 4 y.natAbs r
    split
    · have hy : -(y.natAbs : Int) = y := by omega
      refine (congrArg (Option.map fun (n, r) => (-(n : Int), r)) hread).trans ?_
      exact congrArg (fun y => some (y, '-' :: r)) hy
    · have hy : (y.natAbs : Int) = y := by omega
      refine (congrArg (Option.map fun (n, r) => ((n : Int), r)) hread).trans ?_
      exact congrArg (fun y => some (y, '-' :: r)) hy

theorem dateFields?_chars {d : Date} (h : Date.firstYear ≤ d.year ∧ d.year ≤ Date.lastYear)
    (loose : Bool) (r : List Char) : dateFields? loose (d.chars ++ r) = some (d, r) := by
  have hm : d.month < 100 := by
    have := d.month_mem
    omega
  have hd : d.day < 100 := Nat.lt_of_le_of_lt d.day_mem.2 (Granularity.daysIn_lt _ _)
  have hcut : d.chars ++ r = yearChars d.year ++ '-' :: (fixed 2 d.month ++ '-' ::
      (fixed 2 d.day ++ r)) := by
    simp [Date.chars, Date.monthChars]
  rw [hcut]
  unfold dateFields?
  simp only [year?_yearChars, mark?_self (c := '-') (by decide), field?_fixed hm, field?_fixed hd,
    Date.make?_self d h, Option.bind_eq_bind, Option.bind_some]

/-! ### the time of day -/

/-- a fraction of `k` digits -/
theorem fraction?_fixed {k n : Nat} (hk : k + 1 ≤ 9) (hn : n < 10 ^ (k + 1)) (r : List Char) :
    fraction? ('.' :: fixed (k + 1) n ++ 'Z' :: r) =
      some (n * Nat.pow 10 (9 - (k + 1)), 'Z' :: r) := by
  have hd : ∀ c ∈ fixed (k + 1) n, c.isDigit = true := fun _ => isDigit_of_mem_fixed
  have hz : ∀ j, NoDigitFirst (('Z' :: r).take j) := fun j => by
    cases j <;> simp [NoDigitFirst]
  have htake : ((fixed (k + 1) n ++ 'Z' :: r).take 9).takeWhile Char.isDigit = fixed (k + 1) n := by
    rw [List.take_append, List.take_of_length_le ((length_fixed _ _).symm ▸ hk),
      takeWhile_isDigit hd (hz _)]
  have hdrop := dropWhile_isDigit hd (hz (r.length + 1))
  rw [List.take_of_length_le (by simp)] at hdrop
  unfold fraction?
  simp only [List.cons_append, htake, hdrop]
  cases hcs : fixed (k + 1) n with
  | nil => exact absurd hcs (fixed_ne_nil k n)
  | cons c cs =>
    dsimp only
    rw [← hcs, digitsValue_fixed hn, length_fixed]

theorem fraction?_fractionChars {nano : Nat} (h : nano < 1000000000) (r : List Char) :
    fraction? (Instant.fractionChars nano ++ 'Z' :: r) = some (nano, 'Z' :: r) := by
  unfold Instant.fractionChars
  split
  · rename_i hz
    rw [hz]
    rfl
  · split
    · rename_i hmod
      rw [fraction?_fixed (by decide) (by omega)]
      show some (nano / 1000000 * 1000000, _) = _
      rw [Nat.div_mul_cancel (Nat.dvd_of_mod_eq_zero hmod)]
    · split
      · rename_i hmod
        rw [fraction?_fixed (by decide) (by omega)]
        show some (nano / 1000 * 1000, _) = _
        rw [Nat.div_mul_cancel (Nat.dvd_of_mod_eq_zero hmod)]
      · rw [fraction?_fixed (by decide) (by omega)]
        show some (nano * 1, _) = _
        rw [Nat.mul_one]

theorem timeFields?_chars (t : Instant) (r : List Char) :
    timeFields? (t.timeChars ++ (Instant.fractionChars t.shownNano ++ 'Z' :: r)) =
      some ((t.secondOfDay, t.nano), 'Z' :: r) := by
  have hday : t.secondOfDay < 86400 := by
    unfold Instant.secondOfDay
    omega
  have hsecond : t.secondOfDay % 60 = (t.second % 60).toNat := by
    unfold Instant.secondOfDay
    omega
  have hleap := t.nano_lt
  have hh : t.hour < 24 := by
    unfold Instant.hour
    omega
  have hm : t.minute < 60 := by
    unfold Instant.minute
    omega
  have hs : t.shownSecond ≤ 60 := by
    unfold Instant.shownSecond
    omega
  have hn : t.shownNano < 1000000000 := by
    unfold Instant.shownNano
    omega
  have hcut : t.timeChars ++ (Instant.fractionChars t.shownNano ++ 'Z' :: r) =
      fixed 2 t.hour ++ ':' :: (fixed 2 t.minute ++ ':' :: (fixed 2 t.shownSecond ++
        (Instant.fractionChars t.shownNano ++ 'Z' :: r))) := by
    simp [Instant.timeChars]
  rw [hcut]
  unfold timeFields?
  simp only [field?_fixed (show t.hour < 100 by omega), field?_fixed (show t.minute < 100 by omega),
    field?_fixed (show t.shownSecond < 100 by omega), mark?_self (c := ':') (by decide),
    fraction?_fractionChars hn, Option.bind_eq_bind, Option.bind_some]
  rw [if_pos ⟨by omega, by omega, hs⟩]
  have hsec : t.hour * 3600 + t.minute * 60 + min t.shownSecond 59 = t.secondOfDay := by
    unfold Instant.hour Instant.minute Instant.shownSecond
    omega
  have hnano : t.shownNano + (if t.shownSecond = 60 then 1000000000 else 0) = t.nano := by
    unfold Instant.shownNano Instant.shownSecond
    split <;> omega
  rw [hsec, hnano]

end Calendar

/-! ## the whole -/

namespace Instant

theorem make?_self (t : Instant) : make? t.second t.nano = some t := by
  unfold make?
  rw [dif_pos ⟨t.nano_lt, t.in_span⟩]

/-- **The written form of an instant is read as the instant.** -/
theorem read?_written (t : Instant) : read? t.written = some t := by
  have hcut : t.written.toList = t.date.chars ++ 'T' :: (t.timeChars ++
      (fractionChars t.shownNano ++ ['Z'])) := by
    simp [written, chars]
  have hsecond : t.date.toDays * 86400 + (t.secondOfDay : Int) - 0 = t.second := by
    rw [show t.date = .ofDays t.day from rfl, Date.toDays_ofDays]
    unfold day secondOfDay
    omega
  unfold read?
  rw [hcut, Calendar.dateFields?_chars t.year_date]
  simp only [Option.bind_eq_bind, Option.bind_some, Calendar.timeFields?_chars]
  show (if ([] : List Char).all isBlank = true then
    make? (t.date.toDays * 86400 + (t.secondOfDay : Int) - 0) t.nano else none) = _
  rw [hsecond]
  exact t.make?_self

end Instant
end MailBrowser
