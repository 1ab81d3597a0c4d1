/-!
# Calendar dates

Dates of the proleptic Gregorian calendar, and the count of days from 1 January 1970.

* `Date`            a day that exists: month and day are in their ranges;
* `Date.ofDays`     the date of a day number, `Date.toDays` the number of a date;
* `Date.make?`      the date of three numbers, if there is such a day in the span of years kept;
* `Date.before`     the order of dates.

A cycle of 400 years is cut from 1 March: three long centuries of 36524 days and what is left,
quadrennia of 1461 days, years of 365 days.  Counting from March puts the leap day last.
-/

namespace MailBrowser

def isLeap (year : Int) : Bool :=
  year % 4 == 0 && (year % 100 != 0 || year % 400 == 0)

def daysIn (year : Int) (month : Nat) : Nat :=
  if month = 2 then (if isLeap year then 29 else 28)
  else if month = 4 ∨ month = 6 ∨ month = 9 ∨ month = 11 then 30
  else 31

structure Date where
  year : Int
  month : Nat
  day : Nat
  month_mem : 1 ≤ month ∧ month ≤ 12
  day_mem : 1 ≤ day ∧ day ≤ daysIn year month
deriving DecidableEq

namespace Date

/-! ## day numbers -/

/-- days between 1 March of the year 0 and 1 January 1970 -/
def marchShift : Int := 719468

/-- the place of a day in its cycle of 400 years: centuries, quadrennia, years, days -/
structure CyclePlace where
  century : Nat
  quad : Nat
  year : Nat
  day : Nat

def CyclePlace.ofDay (e : Nat) : CyclePlace :=
  let c := min (e / 36524) 3
  let q := (e - 36524 * c) / 1461
  let y := min ((e - 36524 * c - 1461 * q) / 365) 3
  ⟨c, q, y, e - 36524 * c - 1461 * q - 365 * y⟩

theorem CyclePlace.ofDay_bounds (e : Nat) (h : e < 146097) :
    let p := CyclePlace.ofDay e
    p.century ≤ 3 ∧ p.quad ≤ 24 ∧ p.year ≤ 3 ∧ p.day ≤ 365 ∧
      36524 * p.century + 1461 * p.quad + 365 * p.year + p.day = e ∧
      (p.day = 365 → p.year = 3 ∧ (p.quad ≠ 24 ∨ p.century = 3)) := by
  simp only [CyclePlace.ofDay]
  omega

/-- the month of a day counted from 1 March, March being 0 -/
def marchMonth (doy : Nat) : Nat := (5 * doy + 2) / 153

/-- the first day of a month counted from March -/
def marchMonthStart (m : Nat) : Nat := (153 * m + 2) / 5

theorem marchMonth_bounds (doy : Nat) (h : doy ≤ 365) :
    let m := marchMonth doy
    let d := doy - marchMonthStart m + 1
    m ≤ 11 ∧ marchMonthStart m ≤ doy ∧ d ≤ 31 ∧
      (m = 1 ∨ m = 3 ∨ m = 6 ∨ m = 8 → d ≤ 30) ∧
      (m = 11 → d ≤ 29 ∧ (d = 29 → doy = 365)) := by
  simp only [marchMonth, marchMonthStart]
  omega

/-- the month of the calendar year -/
def monthOfMarch (m : Nat) : Nat := if m < 10 then m + 3 else m - 9

/-- the years of the cycles and of the place in the last, counted from March -/
def marchYear (era : Int) (p : CyclePlace) : Int :=
  era * 400 + (100 * p.century + 4 * p.quad + p.year : Nat)

/-- January and February belong to the next calendar year. -/
def yearOfMarch (era : Int) (p : CyclePlace) (month : Nat) : Int :=
  marchYear era p + if month ≤ 2 then 1 else 0

theorem isLeap_of_last_day (era : Int) (p : CyclePlace) (hq : p.quad ≤ 24) (hy : p.year = 3)
    (h : p.quad ≠ 24 ∨ p.century = 3) :
    isLeap (marchYear era p + 1) = true := by
  simp only [isLeap, marchYear, Bool.and_eq_true, Bool.or_eq_true, beq_iff_eq, bne_iff_ne]
  omega

theorem day_le_daysIn (era : Int) (e : Nat) (h : e < 146097) :
    let p := CyclePlace.ofDay e
    let m := marchMonth p.day
    p.day - marchMonthStart m + 1 ≤ daysIn (yearOfMarch era p (monthOfMarch m)) (monthOfMarch m)
    := by
  intro p m
  obtain ⟨hc, hq, hy, hd, _, hlast⟩ := CyclePlace.ofDay_bounds e h
  obtain ⟨hm, hs, h31, h30, h29⟩ := marchMonth_bounds p.day hd
  have hp : p = CyclePlace.ofDay e := rfl
  rw [← hp] at hc hq hy hd hlast
  unfold daysIn
  by_cases h2 : monthOfMarch m = 2
  · have hm11 : m = 11 := by
      unfold monthOfMarch at h2; split at h2 <;> omega
    rw [if_pos h2]
    obtain ⟨hle, heq⟩ := h29 hm11
    split
    · exact hle
    · rename_i hleap
      have hne : p.day ≠ 365 := by
        intro h365
        obtain ⟨hy3, hqc⟩ := hlast h365
        apply hleap
        rw [yearOfMarch, h2, if_pos (by omega)]
        exact isLeap_of_last_day era p hq hy3 hqc
      exact Nat.le_of_lt_succ (Nat.lt_of_le_of_ne hle fun hh => hne (heq hh))
  · rw [if_neg h2]
    split
    · rename_i h46
      apply h30
      show m = 1 ∨ m = 3 ∨ m = 6 ∨ m = 8
      unfold monthOfMarch at h46; split at h46 <;> omega
    · exact h31

def ofDays (z : Int) : Date :=
  let n := z + marchShift
  let era := n / 146097
  let e := (n % 146097).toNat
  let p := CyclePlace.ofDay e
  let m := marchMonth p.day
  { year := yearOfMarch era p (monthOfMarch m)
    month := monthOfMarch m
    day := p.day - marchMonthStart m + 1
    month_mem := by
      have he : e < 146097 := by omega
      have := (marchMonth_bounds p.day (CyclePlace.ofDay_bounds e he).2.2.2.1).1
      unfold monthOfMarch
      split <;> omega
    day_mem := ⟨by omega, day_le_daysIn era e (by omega)⟩ }

def toDays (d : Date) : Int :=
  let y := if d.month ≤ 2 then d.year - 1 else d.year
  let m := if d.month ≤ 2 then d.month + 9 else d.month - 3
  let yoe := y % 400
  (y / 400) * 146097 + (365 * yoe + yoe / 4 - yoe / 100) + marchMonthStart m + d.day - 1
    - marchShift

/-! ## the span of years, order -/

/-- the years that dates are kept for -/
def firstYear : Int := -262143
def lastYear : Int := 262142

def make? (year : Int) (month day : Nat) : Option Date :=
  if h : (1 ≤ month ∧ month ≤ 12) ∧ (1 ≤ day ∧ day ≤ daysIn year month) then
    if firstYear ≤ year ∧ year ≤ lastYear then some ⟨year, month, day, h.1, h.2⟩ else none
  else none

def before (a b : Date) : Bool :=
  a.year < b.year || (a.year == b.year &&
    (a.month < b.month || (a.month == b.month && a.day < b.day)))

end Date
end MailBrowser
