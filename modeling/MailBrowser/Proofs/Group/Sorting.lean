import Mathlib.Data.String.Basic
import Mathlib.Order.Compare
import MailBrowser.Calendar.Instant
import MailBrowser.Group.Order

/-!
# Sorting by a figure

Rows and messages are sorted alike: by a figure in some direction, equal ones by an ascending
second figure.

* `Direction.Before`      one value before another in a direction;
* `Direction.ranked`      the comparison of such a sort, `ranked_iff` what it says;
* `Direction.pairwise_ranked`   what is sorted by it is in this order;
* `Instant.before_iff`    instants are linearly ordered.
-/

namespace MailBrowser

namespace Direction

/-- one value comes before another in a direction -/
def Before {α : Type} [LT α] : Direction → α → α → Prop
  | .asc, x, y => x < y
  | .desc, x, y => y < x

variable {ρ α κ : Type} [LinearOrder α] [LinearOrder κ] (dir : Direction) (figure : ρ → α)
  (tie : ρ → κ)

/-- the comparison by a figure, equal ones by a second one -/
def ranked (a b : ρ) : Bool :=
  ((dir.orient (compare (figure a) (figure b))).then (compare (tie a) (tie b))).isLE

theorem ranked_iff (a b : ρ) :
    dir.ranked figure tie a b = true ↔
      dir.Before (figure a) (figure b) ∨ figure a = figure b ∧ tie a ≤ tie b := by
  unfold ranked
  rcases lt_trichotomy (figure a) (figure b) with h | h | h
  · rw [compare_lt_iff_lt.2 h]
    cases dir <;> simp [orient, Before, h, h.ne, h.not_gt, Ordering.then]
  · have ho : dir.orient .eq = .eq := by cases dir <;> rfl
    have hb : ¬ dir.Before (figure a) (figure b) := by
      rw [h]
      cases dir <;> exact lt_irrefl _
    rw [compare_eq_iff_eq.2 h, ho, or_iff_right hb, and_iff_right h]
    exact Ordering.ne_gt_iff_isLE.symm.trans compare_le_iff_le
  · rw [compare_gt_iff_gt.2 h]
    cases dir <;> simp [orient, Before, h, h.ne', h.not_gt, Ordering.then]

theorem ranked_trans {a b c : ρ} (hab : dir.ranked figure tie a b = true)
    (hbc : dir.ranked figure tie b c = true) : dir.ranked figure tie a c = true := by
  rw [ranked_iff] at *
  unfold Before at *
  cases dir <;> grind

theorem ranked_total (a b : ρ) :
    (dir.ranked figure tie a b || dir.ranked figure tie b a) = true := by
  rw [Bool.or_eq_true, ranked_iff, ranked_iff]
  unfold Before
  cases dir <;> grind

theorem pairwise_ranked (l : List ρ) :
    (l.mergeSort (dir.ranked figure tie)).Pairwise fun a b =>
      dir.Before (figure a) (figure b) ∨ figure a = figure b ∧ tie a ≤ tie b := by
  refine (List.pairwise_mergeSort (fun a b c => ?_) (dir.ranked_total figure tie) l).imp ?_
  · exact dir.ranked_trans figure tie
  · exact fun h => (dir.ranked_iff figure tie _ _).1 h

end Direction

namespace Instant

/-- Instants are in the order of their seconds, then of their fractions. -/
instance : LinearOrder Instant where
  lt a b := a.before b = true
  le a b := b.before a = false
  le_refl a := by simp [before]
  le_trans a b c := by
    simp only [before, Bool.or_eq_false_iff, Bool.and_eq_false_imp, decide_eq_false_iff_not,
      beq_iff_eq]
    omega
  le_antisymm a b := by
    obtain ⟨s, n, _, _⟩ := a
    obtain ⟨s', n', _, _⟩ := b
    simp only [before, Bool.or_eq_false_iff, Bool.and_eq_false_imp, decide_eq_false_iff_not,
      beq_iff_eq, mk.injEq]
    omega
  le_total a b := by
    simp only [before, Bool.or_eq_false_iff, Bool.and_eq_false_imp, decide_eq_false_iff_not,
      beq_iff_eq]
    omega
  lt_iff_le_not_ge a b := by
    simp only [before, Bool.or_eq_true, Bool.and_eq_true, Bool.or_eq_false_iff,
      Bool.and_eq_false_imp, decide_eq_false_iff_not, decide_eq_true_eq, beq_iff_eq]
    omega
  toDecidableLE := fun a b => inferInstanceAs (Decidable (b.before a = false))
  toDecidableEq := inferInstance

theorem before_iff {a b : Instant} : a.before b = true ↔ a < b := Iff.rfl

end Instant
end MailBrowser
