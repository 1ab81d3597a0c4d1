import MailBrowser.Text.Case

/-!
# Texts without capitals

* `NoCapitals`         no ASCII capital stands in a text;
* `sameAscii_iff_eq`   two such texts that are equal up to the case of ASCII letters are equal;
* `lowerFrom_ascii`    an ASCII text without capitals is its own lower-case form;
* `noCapitals_lower`   no capital stands in a lower-case form, whatever the letters were.
-/

namespace MailBrowser
namespace Text

def NoCapitals (s : String) : Prop := ∀ c ∈ s.toList, c.isUpper = false

theorem isUpper_iff {c : Char} : c.isUpper = true ↔ 65 ≤ c.toNat ∧ c.toNat ≤ 90 := by
  show decide ('A'.val ≤ c.val ∧ c.val ≤ 'Z'.val) = true ↔ _
  rw [decide_eq_true_iff, UInt32.le_iff_toNat_le, UInt32.le_iff_toNat_le]
  exact Iff.rfl

theorem toLower_of_not_isUpper {c : Char} (h : c.isUpper = false) : c.toLower = c :=
  dif_neg (of_decide_eq_false h)

theorem sameAscii_iff_eq {a b : String} (ha : NoCapitals a) (hb : NoCapitals b) :
    sameAscii a b = true ↔ a = b := by
  have hl : ∀ s, NoCapitals s → s.toList.map Char.toLower = s.toList := fun s hs =>
    (List.map_congr_left fun c hc => toLower_of_not_isUpper (hs c hc)).trans (List.map_id _)
  unfold sameAscii
  rw [beq_iff_eq, hl a ha, hl b hb, String.toList_inj]

/-! ## lower-case forms -/

theorem lowerFrom_ascii {cs : List Char} (h : ∀ c ∈ cs, c.toNat < 0x80 ∧ c.isUpper = false)
    (before : List Char) : lowerFrom before cs = cs := by
  induction cs generalizing before with
  | nil => rfl
  | cons c cs ih =>
    obtain ⟨hascii, hupper⟩ := h c List.mem_cons_self
    have hsigma : c ≠ 'Σ' := by
      rintro rfl
      exact absurd hascii (by decide)
    unfold lowerFrom
    rw [if_neg hsigma, ih fun x hx => h x (List.mem_cons_of_mem c hx), lowerLetter, if_pos hascii,
      toLower_of_not_isUpper hupper]
    rfl

theorem isUpper_of_gt {c : Char} (h : 90 < c.toNat) : c.isUpper = false := by
  refine Bool.eq_false_iff.2 fun hc => ?_
  have := (isUpper_iff.1 hc).2
  omega

theorem isUpper_toLower_of_ascii {c : Char} (h : c.toNat < 128) : c.toLower.isUpper = false := by
  have hall : ∀ n < 128, (Char.ofNat n).toLower.isUpper = false := by decide
  have := hall c.toNat h
  rwa [Char.ofNat_toNat] at this

/-- Neither is a code point above the capitals one, nor what stands for a number that is no code
point. -/
theorem isUpper_ofNat {n : Nat} (h : 90 < n) : (Char.ofNat n).isUpper = false := by
  by_cases hv : n.isValidChar
  · have hn : Char.ofNat n = Char.ofNatAux n hv := dif_pos hv
    rw [hn]
    exact isUpper_of_gt h
  · have hn : Char.ofNat n = '\x00' := dif_neg hv
    rw [hn]
    decide

/-- No letter outside ASCII has a capital for its lower-case form. -/
theorem lowerRuns_above_capitals :
    ∀ r ∈ CaseTable.lowerRuns, 90 < (r.1 : Int) + r.2.2.2 := by decide +kernel

theorem lowerShift_above_capitals {n : Nat} (h : 128 ≤ n) : 90 < (n : Int) + lowerShift n := by
  unfold lowerShift
  split
  · rename_i r hr
    have hm := lowerRuns_above_capitals r (List.mem_of_find?_eq_some hr)
    have hp := List.find?_some hr
    simp only [Bool.and_eq_true, decide_eq_true_eq] at hp
    omega
  · omega

theorem isUpper_of_mem_lowerLetter {c x : Char} (h : x ∈ lowerLetter c) : x.isUpper = false := by
  unfold lowerLetter at h
  split at h
  · rename_i hascii
    rw [List.mem_singleton.1 h]
    exact isUpper_toLower_of_ascii hascii
  · split at h
    · rcases List.mem_cons.1 h with rfl | h
      · decide
      · rw [List.mem_singleton.1 h]
        decide
    · rename_i hascii _
      rw [List.mem_singleton.1 h]
      have := lowerShift_above_capitals (Nat.le_of_not_lt hascii)
      exact isUpper_ofNat (by omega)

theorem isUpper_lowerSigma (before after : List Char) :
    (lowerSigma before after).isUpper = false := by
  unfold lowerSigma
  split <;> decide

theorem isUpper_of_mem_lowerFrom {before cs : List Char} {x : Char} (h : x ∈ lowerFrom before cs) :
    x.isUpper = false := by
  induction cs generalizing before with
  | nil => cases h
  | cons c cs ih =>
    unfold lowerFrom at h
    split at h
    · rcases List.mem_cons.1 h with rfl | h
      · exact isUpper_lowerSigma _ _
      · exact ih h
    · rcases List.mem_append.1 h with h | h
      · exact isUpper_of_mem_lowerLetter h
      · exact ih h

theorem noCapitals_lower (s : String) : NoCapitals (lower s) := by
  intro c hc
  unfold lower at hc
  rw [String.toList_ofList] at hc
  exact isUpper_of_mem_lowerFrom hc

theorem isUpper_of_isDigit {c : Char} (h : c.isDigit = true) : c.isUpper = false := by
  refine Bool.eq_false_iff.2 fun hc => ?_
  have h1 := (isUpper_iff.1 hc).1
  have h2 : c.toNat ≤ 57 := (Char.isDigit_iff_toNat.1 h).2
  omega

theorem noCapitals_empty : NoCapitals "" := by
  intro c hc
  cases hc

end Text
end MailBrowser
