import Mathlib.Logic.Basic
import MailBrowser.Proofs.Archive.Filters

/-!
# Constraints that come one after the other

A filter is what it holds each dimension to.  The last constraint on a dimension is the one that
counts, and between constraints on different dimensions the order does not matter.

* `Constraint`            a dimension and what it is held to; `Filter.constrain`,
                          `Filter.constrainAll` a filter with one more, and with a list of them;
* `Filter.Sound`          no dimension is held both to a value and to having none;
* `Filter.Sound.ext`      sound filters that hold each dimension to the same are equal;
* `apply_apply`, `apply_comm`   two constraints on one dimension, and on two;
* `holds_constrainAll`    the dimensions that a list of constraints holds;
* `constrainAll_laws`     all this of a scope under any list of constraints, and what messages
                          pass one more.
-/

namespace MailBrowser

/-- what a drill into a row asks for: the dimension, the key and the size of a time bucket -/
structure Constraint where
  dimension : Dimension
  key : String
  granularity : Granularity

namespace Filter

def constrain (f : Filter) (c : Constraint) : Filter := f.apply c.dimension c.key c.granularity

def constrainAll (f : Filter) (cs : List Constraint) : Filter := cs.foldl constrain f

/-! ## what a filter is -/

/-- The dimensions that must have no value are in the order of the ring, and are held to no value
at the same time. -/
structure Sound (f : Filter) : Prop where
  value_or_none : ∀ d, f.value d = none ∨ f.wantsNone d = false
  in_order : f.noneOf = Dimension.ring.filter f.wantsNone

variable {f f' : Filter} {d e : Dimension}

/-- The period says more of the dimension of time than its value: the granularity too. -/
theorem Sound.ext (h : f.Sound) (h' : f'.Sound) (hvalue : ∀ d, f.value d = f'.value d)
    (hnone : ∀ d, f.wantsNone d = f'.wantsNone d) (hperiod : f.period = f'.period)
    (haccount : f.account = f'.account) (hscope : f.attachmentsOnly = f'.attachmentsOnly) :
    f = f' := by
  have hnoneOf : f.noneOf = f'.noneOf := by
    rw [h.in_order, h'.in_order, funext hnone]
  cases f
  cases f'
  rw [mk.injEq]
  exact ⟨hvalue .senders, hvalue .senderNames, hvalue .recipients, hvalue .recipientNames,
    hvalue .domains, hvalue .labels, hperiod, haccount, hscope, hnoneOf⟩

theorem sound_inScope (account : Option Int) (attachmentsOnly : Bool) :
    (inScope account attachmentsOnly).Sound where
  value_or_none d := by cases d <;> exact .inl rfl
  in_order := rfl

/-- One more constraint leaves a filter sound. -/
theorem Sound.apply (h : f.Sound) (d : Dimension) (key : String) (g : Granularity) :
    (f.apply d key g).Sound where
  value_or_none e := by
    rw [value_apply, wantsNone_apply]
    by_cases he : e = d
    · rw [if_pos he, if_pos he]
      cases key.isEmpty
      · exact .inr rfl
      · exact .inl rfl
    · rw [if_neg he, if_neg he]
      exact h.value_or_none e
  in_order := by
    have hwants : (f.apply d key g).wantsNone =
        fun e => if e = d then key.isEmpty else f.wantsNone e :=
      funext fun e => wantsNone_apply f d e key g
    rw [hwants, noneOf_apply]
    split
    · next hkey =>
      unfold withDimension
      refine List.filter_congr fun e _ => ?_
      by_cases he : e = d
      · simp [he, hkey]
      · simp [he, wantsNone]
    · next hkey =>
      rw [h.in_order, List.filter_filter]
      refine List.filter_congr fun e _ => ?_
      by_cases he : e = d
      · simp [he, hkey]
      · simp [he]

theorem Sound.constrainAll (h : f.Sound) (cs : List Constraint) : (f.constrainAll cs).Sound :=
  List.foldlRecOn cs constrain h fun _ hf c _ => hf.apply c.dimension c.key c.granularity

/-! ## two constraints -/

/-- The last constraint on a dimension counts. -/
theorem Sound.apply_apply (h : f.Sound) (d : Dimension) (key key' : String) (g g' : Granularity) :
    (f.apply d key g).apply d key' g' = f.apply d key' g' := by
  refine ((h.apply d key g).apply d key' g').ext (h.apply d key' g') (fun e => ?_) (fun e => ?_)
    ?_ ?_ ?_
  · rw [value_apply, value_apply, value_apply]
    split <;> rfl
  · rw [wantsNone_apply, wantsNone_apply, wantsNone_apply]
    split <;> rfl
  · rw [period_apply, period_apply, period_apply]
    split <;> rfl
  · rw [account_apply, account_apply, account_apply]
  · rw [attachmentsOnly_apply, attachmentsOnly_apply, attachmentsOnly_apply]

theorem Sound.apply_comm (h : f.Sound) (hne : e ≠ d) (key key' : String) (g g' : Granularity) :
    (f.apply d key g).apply e key' g' = (f.apply e key' g').apply d key g := by
  have hapart (c : Dimension) : e = c → ¬ d = c := fun he hd => hne (he.trans hd.symm)
  -- By what the two filters hold a dimension to, and not by the pairs of slots that are written.
  refine ((h.apply d key g).apply e key' g').ext ((h.apply e key' g').apply d key g)
    (fun c => ?_) (fun c => ?_) ?_ ?_ ?_
  · simp only [value_apply, eq_comm (a := c)]
    exact ite_ite_comm _ _ _ _ (hapart c)
  · simp only [wantsNone_apply, eq_comm (a := c)]
    exact ite_ite_comm _ _ _ _ (hapart c)
  · simp only [period_apply]
    exact ite_ite_comm _ _ _ _ (hapart .time)
  · simp only [account_apply]
  · simp only [attachmentsOnly_apply]

/-! ## lists of constraints -/

theorem constrainAll_cons (f : Filter) (c : Constraint) (cs : List Constraint) :
    f.constrainAll (c :: cs) = (f.constrain c).constrainAll cs := rfl

theorem account_constrainAll (f : Filter) (cs : List Constraint) :
    (f.constrainAll cs).account = f.account :=
  List.foldlRecOn cs constrain (motive := fun f' => f'.account = f.account) rfl
    fun _ hf _ _ => (account_apply ..).trans hf

theorem attachmentsOnly_constrainAll (f : Filter) (cs : List Constraint) :
    (f.constrainAll cs).attachmentsOnly = f.attachmentsOnly :=
  List.foldlRecOn cs constrain (motive := fun f' => f'.attachmentsOnly = f.attachmentsOnly) rfl
    fun _ hf _ _ => (attachmentsOnly_apply ..).trans hf

/-- Constraints hold their own dimensions, and let go of none. -/
theorem holds_constrainAll (f : Filter) (cs : List Constraint) (d : Dimension) :
    (f.constrainAll cs).holds d = (f.holds d || cs.any fun c => c.dimension = d) := by
  induction cs generalizing f with
  | nil => exact (Bool.or_false _).symm
  | cons c cs ih =>
    rw [constrainAll_cons, ih, constrain, holds_apply, List.any_cons]
    by_cases hd : d = c.dimension
    · simp [hd]
    · simp [hd, Ne.symm hd]

theorem isConstrained_constrainAll_inScope (account : Option Int) (attachmentsOnly : Bool)
    (cs : List Constraint) :
    ((inScope account attachmentsOnly).constrainAll cs).isConstrained = true ↔ cs ≠ [] := by
  rw [isConstrained_iff]
  simp only [holds_constrainAll, holds_inScope, Bool.false_or, List.any_eq_true,
    decide_eq_true_eq]
  constructor
  · rintro ⟨d, c, hc, -⟩
    exact List.ne_nil_of_mem hc
  · intro h
    obtain ⟨c, hc⟩ := List.exists_mem_of_ne_nil cs h
    exact ⟨c.dimension, c, hc, rfl⟩

/-- **Constraints accumulate.**  A scope under any list of constraints holds no dimension both to a
value and to having none, and is constrained unless the list is empty.  One more constraint changes
its own dimension only, in any order with those on others, and once is as good as twice; on a
dimension that was held to nothing it lets through what was let through and has the key. -/
theorem constrainAll_laws (account : Option Int) (attachmentsOnly : Bool) (cs : List Constraint) :
    let f := (inScope account attachmentsOnly).constrainAll cs
    (∀ d, f.value d = none ∨ f.wantsNone d = false) ∧
    (f.account = account ∧ f.attachmentsOnly = attachmentsOnly) ∧
    (f.isConstrained = true ↔ cs ≠ []) ∧
    ∀ d key g,
      let f' := f.apply d key g
      ((∀ e, e ≠ d → f'.value e = f.value e ∧ f'.wantsNone e = f.wantsNone e) ∧
        (d ≠ .time → f'.period = f.period) ∧
        f'.account = f.account ∧ f'.attachmentsOnly = f.attachmentsOnly) ∧
      (∀ e key' g', e ≠ d → f'.apply e key' g' = (f.apply e key' g').apply d key g) ∧
      f'.apply d key g = f' ∧
      (f.holds d = false → ∀ m : Message, m.passes f' = true ↔
        m.passes f = true ∧ ∃ k ∈ m.keysOf d g, Text.sameAscii k key = true) := by
  intro f
  have hf : f.Sound := (sound_inScope account attachmentsOnly).constrainAll cs
  refine ⟨hf.value_or_none, ⟨account_constrainAll _ cs, attachmentsOnly_constrainAll _ cs⟩,
    isConstrained_constrainAll_inScope account attachmentsOnly cs, fun d key g => ?_⟩
  refine ⟨⟨fun e he => ⟨?_, ?_⟩, fun hd => ?_, account_apply f d key g,
    attachmentsOnly_apply f d key g⟩, fun e key' g' he => hf.apply_comm he key key' g g',
    hf.apply_apply d key key g g, fun hd m => ?_⟩
  · rw [value_apply, if_neg he]
  · rw [wantsNone_apply, if_neg he]
  · rw [period_apply, if_neg hd]
  · rw [passes_apply_of_not_holds hd, Bool.and_eq_true, Message.hasKey, List.any_eq_true]

/-- `INBOX` without a name of its sender -/
def unnamedInInbox : Message where
  id := 1
  account := 3
  providerId := "m1"
  subject := "one"
  sender := { email := "" }
  sentAt := .epoch
  labels := ["INBOX"]

/-- A message under no name, in one year and with a label, in whatever case. -/
theorem constrainAll_laws_of_two :
    let f := (inScope (some 3) true).constrainAll
      [⟨.senderNames, "", .month⟩, ⟨.time, "1970", .year⟩]
    f.isConstrained = true ∧ f.holds .labels = false ∧
      (f.apply .labels "Inbox" .day).apply .time "" .month =
        (f.apply .time "" .month).apply .labels "Inbox" .day ∧
      unnamedInInbox.passes (f.apply .labels "Inbox" .day) = true := by
  intro f
  have hfree : f.holds .labels = false := by decide
  obtain ⟨-, -, hconstrained, hmore⟩ :=
    constrainAll_laws (some 3) true [⟨.senderNames, "", .month⟩, ⟨.time, "1970", .year⟩]
  obtain ⟨-, hcomm, -, hpasses⟩ := hmore .labels "Inbox" .day
  exact ⟨hconstrained.2 (by decide), hfree, hcomm .time "" .month (by decide),
    (hpasses hfree unnamedInInbox).2 ⟨by decide +kernel, "INBOX", by decide +kernel, by decide⟩⟩

end Filter
end MailBrowser
