import MailBrowser.Calendar.Instant

/-!
# Days of a month and of a year

No month has one day only, and no year one month, also at the ends of the years that are kept.  The
days are counted as `Date.ofDays` counts them, within a year that begins on 1 March; only the place
in such a year is changed.

* `CyclePlace.ofDay_move`        the place of a day in its cycle, with another day of the year;
* `Date.onDay`                   the date of a place, `Date.ofDays_move` the date after a move;
* `Instant.exists_other_day`     another day of the same month;
* `Instant.exists_other_month`   another month of the same year.
-/

namespace MailBrowser
namespace Date

/-! ## places in a year from March -/

theorem CyclePlace.ofDay_move {e : Nat} (h : e < 146097) {day : Nat} (hday : day ≤ 364) :
    let p := CyclePlace.ofDay e
    p.day ≤ e ∧ e - p.day + day < 146097 ∧
      CyclePlace.ofDay (e - p.day + day) = { p with day := day } := by
  obtain ⟨hc, hq, hy, -, he, -⟩ := CyclePlace.ofDay_bounds e h
  intro p
  have hp : 36524 * p.century + 1461 * p.quad + 365 * p.year + p.day = e := he
  have hc : p.century ≤ 3 := hc
  have hq : p.quad ≤ 24 := hq
  have hy : p.year ≤ 3 := hy
  have hbase : e - p.day + day = 36524 * p.century + 1461 * p.quad + 365 * p.year + day := by omega
  have hcentury : min ((e - p.day + day) / 36524) 3 = p.century := by omega
  have hquad : (e - p.day + day - 36524 * p.century) / 1461 = p.quad := by omega
  have hyear : min ((e - p.day + day - 36524 * p.century - 1461 * p.quad) / 365) 3 = p.year := by
    omega
  refine ⟨by omega, by omega, ?_⟩
  have hrest : e - p.day + day - 36524 * p.century - 1461 * p.quad - 365 * p.year = day := by omega
  unfold CyclePlace.ofDay
  simp only [hcentury, hquad, hyear, hrest]

/-- the cycle of a day number, and the place in it -/
def era (z : Int) : Int := (z + marchShift) / 146097

def place (z : Int) : CyclePlace := .ofDay ((z + marchShift) % 146097).toNat

theorem year_ofDays (z : Int) :
    (ofDays z).year = yearOfMarch (era z) (place z) (monthOfMarch (marchMonth (place z).day)) := rfl

theorem month_ofDays (z : Int) : (ofDays z).month = monthOfMarch (marchMonth (place z).day) := rfl

theorem day_ofDays (z : Int) :
    (ofDays z).day = (place z).day - marchMonthStart (marchMonth (place z).day) + 1 := rfl

theorem place_bounds (z : Int) :
    (place z).century ≤ 3 ∧ (place z).quad ≤ 24 ∧ (place z).year ≤ 3 ∧ (place z).day ≤ 365 ∧
      z + 719468 = era z * 146097 + (36524 * (place z).century + 1461 * (place z).quad +
        365 * (place z).year + (place z).day : Nat) := by
  obtain ⟨hc, hq, hy, hd, he, -⟩ :=
    CyclePlace.ofDay_bounds ((z + marchShift) % 146097).toNat (by omega)
  refine ⟨hc, hq, hy, hd, ?_⟩
  unfold place era
  rw [he]
  unfold marchShift
  omega

/-- the day number of another day of the same year from March -/
def moved (z : Int) (day : Nat) : Int := z - (place z).day + day

theorem era_moved (z : Int) {day : Nat} (h : day ≤ 364) :
    era (moved z day) = era z ∧ place (moved z day) = { place z with day := day } := by
  obtain ⟨hle, hlt, hplace⟩ :=
    CyclePlace.ofDay_move (e := ((z + marchShift) % 146097).toNat) (by omega) h
  have hd : (place z).day = (CyclePlace.ofDay ((z + marchShift) % 146097).toNat).day := rfl
  rw [← hd] at hle hlt hplace
  have hdiv : moved z day + marchShift =
      146097 * era z + (((z + marchShift) % 146097).toNat - (place z).day + day : Nat) := by
    unfold moved era
    omega
  have hmod : ((moved z day + marchShift) % 146097).toNat =
      ((z + marchShift) % 146097).toNat - (place z).day + day := by omega
  refine ⟨?_, ?_⟩
  · show (moved z day + marchShift) / 146097 = era z
    omega
  · show CyclePlace.ofDay ((moved z day + marchShift) % 146097).toNat = _
    rw [hmod, hplace]
    rfl

theorem marchMonthStart_marchMonth {day : Nat} (h : day ≤ 365) :
    marchMonthStart (marchMonth day) ≤ day ∧ marchMonth day ≤ 11 := by
  obtain ⟨hm, hs, -⟩ := marchMonth_bounds day h
  exact ⟨hs, hm⟩

/-! ## the days that are kept -/

/-- the day numbers from the first of the first year to the last of the last -/
def Kept (z : Int) : Prop := -96465292 ≤ z ∧ z ≤ 95026236

/-- A year from March begins 306 days before the first day that is kept, one 305 days before the
last, and no other one within 364 days of these. -/
theorem year_starts (s era : Int) {p : CyclePlace} (hc : p.century ≤ 3) (hq : p.quad ≤ 24)
    (hy : p.year ≤ 3)
    (hs : s + 719468 = era * 146097 + (36524 * p.century + 1461 * p.quad + 365 * p.year : Nat)) :
    (s ≤ -96465598 - 365 ∨ s = -96465598 ∨ -96465598 + 365 ≤ s) ∧
      (s ≤ 95025931 - 365 ∨ s = 95025931 ∨ 95025931 + 365 ≤ s) := by
  constructor
  · refine Decidable.byContradiction fun h => ?_
    have hera : era = -656 := by omega
    have hcentury : p.century = 2 := by omega
    have hquad : p.quad = 14 := by omega
    omega
  · refine Decidable.byContradiction fun h => ?_
    have hera : era = 655 := by omega
    have hcentury : p.century = 1 := by omega
    have hquad : p.quad = 10 := by omega
    omega

/-- Another day of its month from March: the one after the first, the one before any other. -/
theorem exists_day_in_month {z : Int} (h : Kept z) : ∃ day ≤ 364, day ≠ (place z).day ∧
    marchMonth day = marchMonth (place z).day ∧ Kept (moved z day) := by
  obtain ⟨-, -, -, hd, -⟩ := place_bounds z
  obtain ⟨hs, hm⟩ := marchMonthStart_marchMonth hd
  by_cases hfirst : (place z).day = marchMonthStart (marchMonth (place z).day)
  · refine ⟨(place z).day + 1, ?_, ?_, ?_, ?_⟩
    · unfold marchMonthStart at hfirst
      omega
    · omega
    · unfold marchMonth marchMonthStart at *
      omega
    · have hz : z ≠ 95026236 := by
        rintro rfl
        revert hfirst
        decide
      unfold Kept moved at *
      omega
  · refine ⟨(place z).day - 1, ?_, ?_, ?_, ?_⟩
    · omega
    · omega
    · unfold marchMonth marchMonthStart at *
      omega
    · have hz : z ≠ -96465292 := by
        rintro rfl
        revert hfirst
        decide
      unfold Kept moved at *
      omega

/-- **Every month that is kept has two days.** -/
theorem exists_other_day {z : Int} (h : Kept z) :
    ∃ z', Kept z' ∧ (ofDays z').year = (ofDays z).year ∧ (ofDays z').month = (ofDays z).month ∧
      (ofDays z').day ≠ (ofDays z).day := by
  obtain ⟨-, -, -, hd, -⟩ := place_bounds z
  obtain ⟨hs, -⟩ := marchMonthStart_marchMonth hd
  obtain ⟨day, hday, hne, hmonth, hkept⟩ := exists_day_in_month h
  obtain ⟨hera, hplace⟩ := era_moved z hday
  refine ⟨moved z day, hkept, ?_, ?_, ?_⟩
  · rw [year_ofDays, year_ofDays, hera, hplace, hmonth]
    rfl
  · rw [month_ofDays, month_ofDays, hplace, hmonth]
  · rw [day_ofDays, day_ofDays, hplace, hmonth]
    have := (marchMonthStart_marchMonth (Nat.le_trans hday (by decide))).1
    rw [hmonth] at this
    dsimp only
    omega

/-- A day of another month of its calendar year.  March and April are of one calendar year, January
and February of the next. -/
theorem exists_month_in_year {z : Int} (h : Kept z) : ∃ day ≤ 364,
    monthOfMarch (marchMonth day) ≠ monthOfMarch (marchMonth (place z).day) ∧
      (monthOfMarch (marchMonth day) ≤ 2 ↔ monthOfMarch (marchMonth (place z).day) ≤ 2) ∧
      Kept (moved z day) := by
  obtain ⟨hc, hq, hy, hd, hz⟩ := place_bounds z
  obtain ⟨-, hm⟩ := marchMonthStart_marchMonth hd
  obtain ⟨hfirst, hlast⟩ := year_starts (z - (place z).day) (era z) hc hq hy (by omega)
  unfold Kept at h
  unfold Kept moved
  by_cases hnext : marchMonth (place z).day < 10
  · have hlate : (place z).day ≤ 305 := by
      unfold marchMonth at hnext
      omega
    by_cases hmarch : marchMonth (place z).day = 0
    · refine ⟨31, by decide, ?_, ?_, by omega, by omega⟩
      · rw [hmarch]
        decide
      · rw [hmarch]
        decide
    · refine ⟨0, by decide, ?_, ?_, by omega, by omega⟩
      · unfold monthOfMarch
        rw [if_pos hnext, if_pos (by decide)]
        show 0 + 3 ≠ _
        omega
      · unfold monthOfMarch
        rw [if_pos hnext, if_pos (by decide)]
        show 0 + 3 ≤ 2 ↔ _
        omega
  · have hlate : 306 ≤ (place z).day := by
      unfold marchMonth at hnext
      omega
    by_cases hjanuary : marchMonth (place z).day = 10
    · refine ⟨337, by decide, ?_, ?_, by omega, by omega⟩
      · rw [hjanuary]
        decide
      · rw [hjanuary]
        decide
    · have hfebruary : marchMonth (place z).day = 11 := by omega
      refine ⟨306, by decide, ?_, ?_, by omega, by omega⟩
      · rw [hfebruary]
        decide
      · rw [hfebruary]
        decide

/-- **Every year that is kept has two months.** -/
theorem exists_other_month {z : Int} (h : Kept z) :
    ∃ z', Kept z' ∧ (ofDays z').year = (ofDays z).year ∧
      (ofDays z').month ≠ (ofDays z).month := by
  obtain ⟨day, hday, hmonth, hyear, hkept⟩ := exists_month_in_year h
  obtain ⟨hera, hplace⟩ := era_moved z hday
  refine ⟨moved z day, hkept, ?_, ?_⟩
  · rw [year_ofDays, year_ofDays, hera, hplace]
    unfold yearOfMarch
    simp only [hyear]
    rfl
  · rw [month_ofDays, month_ofDays, hplace]
    exact hmonth

end Date

/-! ## instants -/

namespace Instant

theorem kept_day (t : Instant) : Date.Kept t.day := by
  have := t.in_span
  unfold Date.Kept day
  omega

theorem exists_on {z : Int} (h : Date.Kept z) : ∃ t : Instant, t.date = .ofDays z := by
  refine ⟨atSecond (z * 86400), ?_⟩
  unfold Date.Kept at h
  have hz : (max (-8334601228800) (min (z * 86400) 8210266876799)) / 86400 = z := by omega
  exact congrArg Date.ofDays hz

theorem exists_other_day (t : Instant) :
    ∃ t' : Instant, t'.date.year = t.date.year ∧ t'.date.month = t.date.month ∧
      t'.date.day ≠ t.date.day := by
  obtain ⟨z, hz, hd⟩ := Date.exists_other_day t.kept_day
  obtain ⟨t', ht⟩ := exists_on hz
  exact ⟨t', ht ▸ hd⟩

theorem exists_other_month (t : Instant) :
    ∃ t' : Instant, t'.date.year = t.date.year ∧ t'.date.month ≠ t.date.month := by
  obtain ⟨z, hz, hm⟩ := Date.exists_other_month t.kept_day
  obtain ⟨t', ht⟩ := exists_on hz
  exact ⟨t', ht ▸ hm⟩

end Instant
end MailBrowser
