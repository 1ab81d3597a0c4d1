import MailBrowser.Drill.Filter

/-!
# Constraints

What one more constraint changes of a filter: the dimension it is on, and nothing else.

* `value_apply`, `wantsNone_apply`   the dimensions after it;
* `account_apply`, `attachmentsOnly_apply`   the scope stays;
* `holds`, `isConstrained_iff`   the dimensions that are held to a value or to none, and whether
  there is one;
* `holds_apply`, `isConstrained_apply`   these after it.
-/

namespace MailBrowser
namespace Filter

theorem value_setValue (f : Filter) (d e : Dimension) (key : Option String) (g : Granularity) :
    (f.setValue d key g).value e = if e = d then key else f.value e := by
  cases d <;> cases e <;> first
    | rfl
    | cases key <;> rfl

theorem mem_withDimension {d e : Dimension} {ds : List Dimension} :
    e ∈ withDimension d ds ↔ e = d ∨ e ∈ ds := by
  unfold withDimension
  simp [List.mem_filter, Dimension.mem_ring]

theorem account_setValue (f : Filter) (d : Dimension) (key : Option String) (g : Granularity) :
    (f.setValue d key g).account = f.account := by cases d <;> rfl

theorem attachmentsOnly_setValue (f : Filter) (d : Dimension) (key : Option String)
    (g : Granularity) : (f.setValue d key g).attachmentsOnly = f.attachmentsOnly := by
  cases d <;> rfl

theorem account_apply (f : Filter) (d : Dimension) (key : String) (g : Granularity) :
    (f.apply d key g).account = f.account := by
  unfold apply
  split <;> exact account_setValue f d _ g

theorem attachmentsOnly_apply (f : Filter) (d : Dimension) (key : String) (g : Granularity) :
    (f.apply d key g).attachmentsOnly = f.attachmentsOnly := by
  unfold apply
  split <;> exact attachmentsOnly_setValue f d _ g

theorem value_apply (f : Filter) (d e : Dimension) (key : String) (g : Granularity) :
    (f.apply d key g).value e =
      if e = d then (if key.isEmpty then none else some key) else f.value e := by
  unfold apply
  by_cases hk : key.isEmpty = true
  · rw [if_pos hk, if_pos hk]
    exact value_setValue f d e none g
  · rw [if_neg hk, if_neg hk]
    exact value_setValue f d e (some key) g

theorem wantsNone_apply (f : Filter) (d e : Dimension) (key : String) (g : Granularity) :
    (f.apply d key g).wantsNone e = if e = d then key.isEmpty else f.wantsNone e := by
  unfold apply wantsNone
  by_cases hk : key.isEmpty = true
  · rw [if_pos hk, hk]
    by_cases he : e = d
    · rw [if_pos he]
      exact decide_eq_true (mem_withDimension.2 (.inl he))
    · rw [if_neg he]
      refine Bool.eq_iff_iff.2 ?_
      rw [decide_eq_true_iff, decide_eq_true_iff, mem_withDimension]
      exact or_iff_right he
  · rw [if_neg hk]
    refine Bool.eq_iff_iff.2 ?_
    by_cases he : e = d
    · simp [he, hk]
    · simp [he]

/-- A period is held with its granularity. -/
theorem granularity_apply_time (f : Filter) {key : String} (h : key.isEmpty = false)
    (g : Granularity) : (f.apply .time key g).granularity = g := by
  unfold apply
  rw [if_neg (by rw [h]; exact Bool.false_ne_true)]
  rfl

theorem granularity_apply_of_ne_time (f : Filter) {d : Dimension} (h : d ≠ .time) (key : String)
    (g : Granularity) : (f.apply d key g).granularity = f.granularity := by
  have hset : ∀ key, (f.setValue d key g).period = f.period := fun key => by
    cases d with
    | time => exact absurd rfl h
    | _ => rfl
  unfold granularity apply
  split
  · rw [hset]
  · rw [hset]

theorem period_apply (f : Filter) (d : Dimension) (key : String) (g : Granularity) :
    (f.apply d key g).period =
      if d = .time then (if key.isEmpty then none else some ⟨key, g⟩) else f.period := by
  unfold apply
  split <;> cases d <;> rfl

theorem noneOf_apply (f : Filter) (d : Dimension) (key : String) (g : Granularity) :
    (f.apply d key g).noneOf =
      if key.isEmpty then withDimension d f.noneOf else f.noneOf.filter (· ≠ d) := by
  unfold apply
  split <;> rfl

/-! ## the constrained dimensions -/

/-- The dimension is held to a value, or to messages without one. -/
def holds (f : Filter) (d : Dimension) : Bool := (f.value d).isSome || f.wantsNone d

theorem holds_inScope (account : Option Int) (attachmentsOnly : Bool) (d : Dimension) :
    (inScope account attachmentsOnly).holds d = false := by cases d <;> rfl

theorem isConstrained_iff {f : Filter} : f.isConstrained = true ↔ ∃ d, f.holds d = true := by
  unfold isConstrained holds wantsNone
  constructor
  · intro h
    rcases Bool.or_eq_true_iff.1 h with h | h
    · obtain ⟨d, -, hd⟩ := List.any_eq_true.1 h
      exact ⟨d, by rw [hd, Bool.true_or]⟩
    · rw [Bool.not_eq_true', List.isEmpty_eq_false_iff_exists_mem] at h
      obtain ⟨d, hd⟩ := h
      exact ⟨d, by rw [decide_eq_true hd, Bool.or_true]⟩
  · rintro ⟨d, hd⟩
    rcases Bool.or_eq_true_iff.1 hd with hd | hd
    · exact Bool.or_eq_true_iff.2 (.inl (List.any_eq_true.2 ⟨d, Dimension.mem_ring d, hd⟩))
    · refine Bool.or_eq_true_iff.2 (.inr ?_)
      rw [Bool.not_eq_true', List.isEmpty_eq_false_iff_exists_mem]
      exact ⟨d, of_decide_eq_true hd⟩

theorem holds_apply (f : Filter) (d e : Dimension) (key : String) (g : Granularity) :
    (f.apply d key g).holds e = if e = d then true else f.holds e := by
  unfold holds
  rw [value_apply, wantsNone_apply]
  by_cases he : e = d
  · rw [if_pos he, if_pos he, if_pos he]
    cases key.isEmpty <;> rfl
  · rw [if_neg he, if_neg he, if_neg he]

theorem isConstrained_apply (f : Filter) (d : Dimension) (key : String) (g : Granularity) :
    (f.apply d key g).isConstrained = true :=
  isConstrained_iff.2 ⟨d, by rw [holds_apply, if_pos rfl]⟩

theorem holds_of_holds (f : Filter) (d : Dimension) (key : String) (g : Granularity)
    {e : Dimension} (h : f.holds e = true) : (f.apply d key g).holds e = true := by
  rw [holds_apply, h, ite_self]

end Filter
end MailBrowser
