import Mathlib.Algebra.BigOperators.Group.List.Basic
import Mathlib.Algebra.Ring.Int.Defs
import MailBrowser.Figure

/-!
# Sums of figures

A sum of figures is the figure of the plain sum, whatever it goes through on the way, and the plain
sum itself where this is a figure.

* `Figure.Fits`     the numbers that are figures;
* `wrap_of_fits`    they stay as they are;
* `sum_eq`          a sum of figures, `foldl_add` one that is begun with a figure;
* `wrap_sum_map_wrap`   a sum may be taken of the figures of numbers.
-/

namespace MailBrowser.Figure

def Fits (n : Int) : Prop := -2 ^ 63 ≤ n ∧ n < 2 ^ 63

instance : DecidablePred Fits := fun n => inferInstanceAs (Decidable (-2 ^ 63 ≤ n ∧ n < 2 ^ 63))

theorem wrap_of_fits {n : Int} (h : Fits n) : wrap n = n := by
  obtain ⟨hl, hu⟩ := h
  exact Int.bmod_eq_of_le (by omega) (by omega)

theorem wrap_add_wrap (a b : Int) : wrap (a + wrap b) = wrap (a + b) := Int.add_bmod_bmod

theorem add_wrap (a b : Int) : add (wrap a) b = wrap (a + b) := Int.bmod_add_bmod

/-- Only what the whole comes to matters: a sum that wraps around on the way comes back. -/
theorem foldl_add (ns : List Int) (a : Int) : ns.foldl add (wrap a) = wrap (a + ns.sum) := by
  induction ns generalizing a with
  | nil => rw [List.foldl_nil, List.sum_nil, Int.add_zero]
  | cons n ns ih => rw [List.foldl_cons, add_wrap, ih, List.sum_cons, Int.add_assoc]

theorem sum_eq (ns : List Int) : sum ns = wrap ns.sum := by
  have h := foldl_add ns 0
  rwa [Int.zero_add] at h

theorem wrap_sum_map_wrap (ns : List Int) : wrap (ns.map wrap).sum = wrap ns.sum := by
  induction ns with
  | nil => rfl
  | cons n ns ih =>
    rw [List.map_cons, List.sum_cons, List.sum_cons, ← wrap_add_wrap, ih, wrap_add_wrap]
    exact add_wrap n ns.sum

/-- A sum that needs more than 64 bits becomes negative. -/
example : sum [9223372036854775807, 1] = -9223372036854775808 := by decide

end MailBrowser.Figure
