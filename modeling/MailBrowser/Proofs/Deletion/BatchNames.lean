import MailBrowser.Deletion.Manifest
import MailBrowser.Proofs.Calendar.Reading
import MailBrowser.Proofs.Files.Places

/-!
# Names of batches

A batch is named by the second it was made in and by what is left of its description.

* `Instant.SameSecond`     two instants whose dates and times of day are shown alike;
* `Instant.sameSecond_of_chars`   the short form tells the second;
* `batchName_eq_iff`       when two batches have one name;
* `nameChar_of_mem_batchName`   the characters of a name, `isName_of_nameChars` it names a file.
-/

namespace MailBrowser
open Text

/-! ## the second of an instant -/

namespace Instant

variable {t t' : Instant}

/-- The second is the same; a leap second is another one than the second before it. -/
def SameSecond (t t' : Instant) : Prop :=
  t.second = t'.second ∧ t.nano / 1000000000 = t'.nano / 1000000000

instance : Decidable (SameSecond t t') := inferInstanceAs (Decidable (_ ∧ _))

/-- the date in the short form -/
def dayChars (t : Instant) : List Char :=
  yearChars t.date.year ++ (fixed 2 t.date.month ++ fixed 2 t.date.day)

/-- the time of day in the short form -/
def clockChars (t : Instant) : List Char :=
  fixed 2 t.hour ++ (fixed 2 t.minute ++ fixed 2 t.shownSecond)

theorem toList_compact (t : Instant) : t.compact.toList = t.dayChars ++ '-' :: t.clockChars := by
  simp [compact, dayChars, clockChars]

theorem length_clockChars (t : Instant) : t.clockChars.length = 6 := by
  simp [clockChars, length_fixed]

theorem shownSecond_lt (t : Instant) : t.shownSecond < 100 := by
  have hn := t.nano_lt
  unfold shownSecond
  omega

theorem secondOfDay_lt (t : Instant) : t.secondOfDay < 86400 := by
  unfold secondOfDay
  omega

/-- Only the last second of a minute can be followed by a leap second. -/
theorem secondOfDay_of_leap (h : 1000000000 ≤ t.nano) : t.secondOfDay % 60 = 59 := by
  have hn := t.nano_lt
  unfold secondOfDay
  omega

theorem clockChars_inj (h : t.clockChars = t'.clockChars) :
    t.secondOfDay = t'.secondOfDay ∧ t.nano / 1000000000 = t'.nano / 1000000000 := by
  obtain ⟨hh, h⟩ := List.append_inj h (by simp [length_fixed])
  obtain ⟨hm, hs⟩ := List.append_inj h (by simp [length_fixed])
  have hday := t.secondOfDay_lt
  have hday' := t'.secondOfDay_lt
  have hhour := Granularity.fixed_two_inj (by unfold hour; omega) (by unfold hour; omega) hh
  have hminute := Granularity.fixed_two_inj (by unfold minute; omega) (by unfold minute; omega) hm
  have hsecond := Granularity.fixed_two_inj t.shownSecond_lt t'.shownSecond_lt hs
  have hleap := t.secondOfDay_of_leap
  have hleap' := t'.secondOfDay_of_leap
  have hn := t.nano_lt
  have hn' := t'.nano_lt
  unfold hour at hhour
  unfold minute at hminute
  unfold shownSecond at hsecond
  omega

theorem date_inj {d d' : Date}
    (h : yearChars d.year ++ (fixed 2 d.month ++ fixed 2 d.day) =
      yearChars d'.year ++ (fixed 2 d'.month ++ fixed 2 d'.day)) : d = d' := by
  obtain ⟨hy, h⟩ := List.append_inj' h (by simp [length_fixed])
  obtain ⟨hm, hd⟩ := List.append_inj' h (by simp [length_fixed])
  have hyear : d.year = d'.year := by
    have hr := Calendar.year?_yearChars d.year []
    rw [hy, Calendar.year?_yearChars] at hr
    exact (Prod.mk.inj (Option.some.inj hr)).1.symm
  have hb := d.month_mem
  have hb' := d'.month_mem
  have hdays (y : Int) (m : Nat) : daysIn y m ≤ 31 := by
    unfold daysIn
    repeat' split
    all_goals decide
  have hl := Nat.le_trans d.day_mem.2 (hdays _ _)
  have hl' := Nat.le_trans d'.day_mem.2 (hdays _ _)
  have hmonth := Granularity.fixed_two_inj (by omega) (by omega) hm
  have hday := Granularity.fixed_two_inj (by omega) (by omega) hd
  cases d
  cases d'
  simp only at hyear hmonth hday
  subst hyear hmonth hday
  rfl

/-- Behind what may be the sign of the year the date has digits only. -/
theorem dayChars_eq_cons (t : Instant) :
    ∃ c ds, t.dayChars = c :: ds ∧ ∀ x ∈ ds, x.isDigit = true := by
  obtain ⟨c, ds, hc, -, hds⟩ := yearChars_eq_cons t.date.year
  refine ⟨c, ds ++ (fixed 2 t.date.month ++ fixed 2 t.date.day), ?_, ?_⟩
  · rw [dayChars, hc, List.cons_append]
  · simp only [List.mem_append]
    rintro x (hx | hx | hx)
    · exact hds x hx
    · exact isDigit_of_mem_fixed hx
    · exact isDigit_of_mem_fixed hx

/-- The date and what follows it are cut at the first dash that is no sign. -/
theorem dayChars_append_inj {r r' : List Char}
    (h : t.dayChars ++ '-' :: r = t'.dayChars ++ '-' :: r') :
    t.dayChars = t'.dayChars ∧ r = r' := by
  obtain ⟨c, ds, hc, hds⟩ := t.dayChars_eq_cons
  obtain ⟨c', ds', hc', hds'⟩ := t'.dayChars_eq_cons
  rw [hc, hc'] at h ⊢
  obtain ⟨rfl, htail⟩ := List.cons.inj h
  have hdash : ∀ r, NoDigitFirst ('-' :: r) := by simp [NoDigitFirst]
  have hdigits : ds = ds' := by
    rw [← takeWhile_isDigit hds (hdash r), ← takeWhile_isDigit hds' (hdash r')]
    exact congrArg _ htail
  subst hdigits
  exact ⟨rfl, (List.cons.inj (List.append_cancel_left htail)).2⟩

theorem sameSecond_of_chars (hd : t.dayChars = t'.dayChars) (hc : t.clockChars = t'.clockChars) :
    SameSecond t t' := by
  have hday : t.second / 86400 = t'.second / 86400 := Date.ofDays_injective (date_inj hd)
  obtain ⟨hs, hn⟩ := clockChars_inj hc
  unfold secondOfDay at hs
  refine ⟨?_, hn⟩
  omega

theorem SameSecond.compact_eq (h : SameSecond t t') : t.compact = t'.compact := by
  obtain ⟨hs, hn⟩ := h
  unfold compact date day hour minute shownSecond secondOfDay
  rw [hs, hn]

end Instant

/-! ## names -/

/-- **Two batches have one name if their seconds and what is left of their descriptions agree.** -/
theorem batchName_eq_iff {t t' : Instant} {description description' : String} :
    batchName t description = batchName t' description' ↔
      t.SameSecond t' ∧ batchSuffix description = batchSuffix description' := by
  unfold batchName
  constructor
  · intro h
    have hchars := congrArg String.toList h
    have hdash : "-".toList = ['-'] := rfl
    simp only [String.toList_append, Instant.toList_compact, hdash, List.append_assoc,
      List.cons_append, List.nil_append] at hchars
    obtain ⟨hday, hchars⟩ := Instant.dayChars_append_inj hchars
    obtain ⟨hclock, hsuffix⟩ := List.append_inj hchars (by simp [Instant.length_clockChars])
    exact ⟨Instant.sameSecond_of_chars hday hclock,
      String.toList_inj.1 (List.cons.inj hsuffix).2⟩
  · rintro ⟨hs, hsuffix⟩
    rw [hs.compact_eq, hsuffix]

/-- a letter or digit of ASCII, a dash, a low line, or the sign of a year -/
def NameChar (c : Char) : Prop := c.isAlphanum = true ∨ c = '-' ∨ c = '_' ∨ c = '+'

theorem nameChar_of_isDigit {c : Char} (h : c.isDigit = true) : NameChar c :=
  .inl (by simp [Char.isAlphanum, h])

theorem nameChar_of_mem_yearChars {y : Int} {c : Char} (h : c ∈ yearChars y) : NameChar c := by
  unfold yearChars at h
  split at h
  · exact nameChar_of_isDigit (isDigit_of_mem_fixed h)
  · rcases List.mem_cons.1 h with rfl | h
    · split
      · exact .inr (.inl rfl)
      · exact .inr (.inr (.inr rfl))
    · exact nameChar_of_isDigit (isDigit_of_mem_padded h)

theorem nameChar_of_mem_compact {t : Instant} {c : Char} (h : c ∈ t.compact.toList) :
    NameChar c := by
  simp only [Instant.toList_compact, Instant.dayChars, Instant.clockChars, List.mem_append,
    List.mem_cons] at h
  rcases h with (h | h | h) | rfl | h | h | h
  · exact nameChar_of_mem_yearChars h
  · exact nameChar_of_isDigit (isDigit_of_mem_fixed h)
  · exact nameChar_of_isDigit (isDigit_of_mem_fixed h)
  · exact .inr (.inl rfl)
  · exact nameChar_of_isDigit (isDigit_of_mem_fixed h)
  · exact nameChar_of_isDigit (isDigit_of_mem_fixed h)
  · exact nameChar_of_isDigit (isDigit_of_mem_fixed h)

theorem nameChar_of_batchChar? {c d : Char} (h : batchChar? c = some d) : NameChar d := by
  unfold batchChar? at h
  split at h
  · rename_i hc
    obtain rfl := Option.some.inj h
    simp only [Bool.or_eq_true, beq_iff_eq] at hc
    rcases hc with (hc | hc) | hc
    · exact .inl hc
    · exact .inr (.inl hc)
    · exact .inr (.inr (.inl hc))
  · split at h
    · exact .inr (.inl (Option.some.inj h).symm)
    · cases h

theorem nameChar_of_mem_batchSuffix {description : String} {c : Char}
    (h : c ∈ (batchSuffix description).toList) : NameChar c := by
  unfold batchSuffix at h
  split at h
  · have hbatch : "batch".toList.all Char.isAlphanum = true := by decide
    exact .inl (List.all_eq_true.1 hbatch c h)
  · rename_i cs hcs
    rw [String.toList_ofList] at h
    obtain ⟨a, -, ha⟩ := List.mem_filterMap.1 (List.mem_of_mem_take h)
    exact nameChar_of_batchChar? ha

/-- **A batch is named in letters and digits of ASCII, dashes, low lines and plus signs.** -/
theorem nameChar_of_mem_batchName {t : Instant} {description : String} {c : Char}
    (h : c ∈ (batchName t description).toList) : NameChar c := by
  simp only [batchName, String.toList_append, List.mem_append] at h
  rcases h with (h | h) | h
  · exact nameChar_of_mem_compact h
  · exact .inr (.inl (List.mem_singleton.1 h))
  · exact nameChar_of_mem_batchSuffix h

/-- Such a name and an ending name a file. -/
theorem isName_of_nameChars {id : String} (h : ∀ c ∈ id.toList, NameChar c) :
    Path.IsName (id ++ ".json") := by
  have hlen (s : String) (hs : s.toList.length < 5) : id ++ ".json" ≠ s := by
    rintro rfl
    rw [String.toList_append, List.length_append] at hs
    exact absurd hs (Nat.not_lt.2 (Nat.le_add_left 5 _))
  refine ⟨hlen "" (by decide), hlen "." (by decide), hlen ".." (by decide), fun hslash => ?_⟩
  rcases List.mem_append.1 (String.toList_append ▸ hslash) with hc | hc
  · rcases h _ hc with hc | hc | hc | hc
    all_goals revert hc; decide
  · revert hc
    decide

end MailBrowser
