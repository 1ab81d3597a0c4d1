import MailBrowser.Archive.Questions
import MailBrowser.Proofs.Drill.Constraints

/-!
# What filters select

* `Message.passes_iff`      a message passes a filter if it meets it in every dimension;
* `Filter.passes_apply_iff`   what passes a filter with a key is what meets it in the other
                            dimensions and has the key;
* `Filter.passes_forKey`    what passes the filter of a key are the messages that have the key;
* `Archive.providerIds_forKey`   an archive does not refuse the filter of a key.
-/

namespace MailBrowser
open Text

theorem Text.sameAscii_refl (s : String) : sameAscii s s = true := beq_self_eq_true _

theorem Text.sameAscii_empty {s : String} : sameAscii s "" = true ↔ s = "" := by
  unfold sameAscii
  rw [beq_iff_eq]
  show List.map Char.toLower s.toList = [] ↔ _
  rw [List.map_eq_nil_iff, String.toList_eq_nil_iff]

/-! ## periods -/

theorem yearChars_ne_nil (y : Int) : yearChars y ≠ [] := by
  unfold yearChars
  split
  · intro h
    have hl := length_fixedIn 10 4 y.toNat
    rw [show fixedIn 10 4 y.toNat = [] from h] at hl
    cases hl
  · exact List.cons_ne_nil _ _

theorem Granularity.period_ne_empty (g : Granularity) (t : Instant) : g.period t ≠ "" := by
  intro h
  have hc : g.periodChars t.date = [] := by
    rw [← String.toList_eq_nil_iff] at h
    unfold period at h
    rwa [String.toList_ofList] at h
  cases g with
  | year => exact yearChars_ne_nil _ hc
  | month => exact List.append_ne_nil_of_right_ne_nil _ (List.cons_ne_nil _ _) hc
  | day => exact List.append_ne_nil_of_right_ne_nil _ (List.cons_ne_nil _ _) hc

namespace Message

variable (m : Message)

theorem keysOf_of_ne_time {d : Dimension} (h : d ≠ .time) (g g' : Granularity) :
    m.keysOf d g = m.keysOf d g' := by
  cases d with
  | time => exact absurd rfl h
  | _ => rfl

theorem hasKey_of_ne_time {d : Dimension} (h : d ≠ .time) (g g' : Granularity) (key : String) :
    m.hasKey d g key = m.hasKey d g' key := by
  unfold hasKey
  rw [m.keysOf_of_ne_time h g g']

theorem hasKey_of_mem {d : Dimension} {g : Granularity} {key : String} (h : key ∈ m.keysOf d g) :
    m.hasKey d g key = true :=
  List.any_eq_true.2 ⟨key, h, sameAscii_refl key⟩

/-- Every message has a time. -/
theorem hasKey_time_empty (g : Granularity) : m.hasKey .time g "" = false := by
  refine Bool.eq_false_iff.2 fun h => ?_
  obtain ⟨k, hk, hs⟩ := List.any_eq_true.1 h
  rw [List.mem_singleton.1 hk] at hs
  exact g.period_ne_empty m.sentAt (sameAscii_empty.1 hs)

theorem inScope_of_inScope {account : Option Int} {attachmentsOnly : Bool}
    (h : m.inScope account attachmentsOnly = true) : m.inScope account false = true := by
  unfold inScope at h ⊢
  rw [Bool.and_eq_true] at h ⊢
  exact ⟨h.1, rfl⟩

theorem passes_iff (f : Filter) : m.passes f = true ↔ ∀ d, m.meets f d = true := by
  unfold passes
  rw [List.all_eq_true]
  exact ⟨fun h d => h d (Dimension.mem_ring d), fun h d _ => h d⟩

end Message

/-! ## one more constraint -/

namespace Filter

/-- The dimension that a filter was held to last asks for the key, at the granularity given. -/
theorem meets_apply_self (f : Filter) (d : Dimension) (key : String) (g : Granularity)
    (m : Message) : m.meets (f.apply d key g) d = m.hasKey d g key := by
  unfold Message.meets
  rw [wantsNone_apply, if_pos rfl, value_apply, if_pos rfl]
  by_cases hk : key.isEmpty = true
  · obtain rfl := String.isEmpty_iff.1 hk
    rw [if_pos hk]
    by_cases ht : d = .time
    · rw [ht, m.hasKey_time_empty, m.hasKey_time_empty]
    · exact m.hasKey_of_ne_time ht _ _ _
  · rw [if_neg hk, if_neg hk]
    by_cases ht : d = .time
    · subst ht
      show m.hasKey .time _ key = _
      rw [granularity_apply_time _ (Bool.eq_false_iff.2 hk)]
    · exact m.hasKey_of_ne_time ht _ _ _

/-- The other dimensions ask for what they asked for. -/
theorem meets_apply_other (f : Filter) {d e : Dimension} (he : e ≠ d) (key : String)
    (g : Granularity) (m : Message) : m.meets (f.apply d key g) e = m.meets f e := by
  have hkey : ∀ k, m.hasKey e (f.apply d key g).granularity k = m.hasKey e f.granularity k := by
    intro k
    by_cases ht : e = .time
    · rw [granularity_apply_of_ne_time f (fun hd => he (ht.trans hd.symm))]
    · exact m.hasKey_of_ne_time ht _ _ _
  unfold Message.meets
  rw [wantsNone_apply, if_neg he, value_apply, if_neg he, hkey]
  cases f.value e with
  | none => rfl
  | some v =>
    dsimp only
    rw [hkey]

theorem passes_apply_iff (f : Filter) (d : Dimension) (key : String) (g : Granularity)
    (m : Message) :
    m.passes (f.apply d key g) = true ↔
      (∀ e, e ≠ d → m.meets f e = true) ∧ m.hasKey d g key = true := by
  rw [m.passes_iff]
  constructor
  · intro h
    refine ⟨fun e he => ?_, ?_⟩
    · rw [← meets_apply_other f he key g m]
      exact h e
    · rw [← meets_apply_self f d key g m]
      exact h d
  · rintro ⟨ho, hd⟩ e
    by_cases he : e = d
    · rw [he, meets_apply_self]
      exact hd
    · rw [meets_apply_other f he]
      exact ho e he

/-- A dimension that is held to nothing asks for nothing. -/
theorem meets_of_not_holds {f : Filter} {d : Dimension} (h : f.holds d = false) (m : Message) :
    m.meets f d = true := by
  unfold holds at h
  obtain ⟨hv, hn⟩ := Bool.or_eq_false_iff.1 h
  unfold Message.meets
  rw [hn, Option.isSome_eq_false_iff.1 hv |> Option.isNone_iff_eq_none.1]
  rfl

/-- **A key on a dimension that was held to nothing is one more constraint, and takes none away.** -/
theorem passes_apply_of_not_holds {f : Filter} {d : Dimension} (h : f.holds d = false)
    (key : String) (g : Granularity) (m : Message) :
    m.passes (f.apply d key g) = (m.passes f && m.hasKey d g key) := by
  refine Bool.eq_iff_iff.2 ?_
  rw [passes_apply_iff, Bool.and_eq_true, m.passes_iff]
  refine and_congr_left fun _ => ⟨fun ho e => ?_, fun ho e _ => ho e⟩
  by_cases he : e = d
  · rw [he]
    exact meets_of_not_holds h m
  · exact ho e he

theorem passes_inScope (account : Option Int) (attachmentsOnly : Bool) (m : Message) :
    m.passes (inScope account attachmentsOnly) = true :=
  (m.passes_iff _).2 fun d => meets_of_not_holds (holds_inScope account attachmentsOnly d) m

theorem passes_forKey (d : Dimension) (key : String) (g : Granularity) (account : Option Int)
    (m : Message) : m.passes (.forKey d key g account) = m.hasKey d g key := by
  unfold forKey
  rw [passes_apply_of_not_holds (holds_inScope account false d), passes_inScope, Bool.true_and]

end Filter

namespace Archive

variable {a : Archive} {m : Message}

theorem mem_inScope {account : Option Int} {attachmentsOnly : Bool} :
    m ∈ a.inScope account attachmentsOnly ↔
      m ∈ a.messages ∧ m.inScope account attachmentsOnly = true := List.mem_filter

theorem mem_selected {f : Filter} :
    m ∈ a.selected f ↔
      (m ∈ a.messages ∧ m.inScope f.account f.attachmentsOnly = true) ∧ m.passes f = true := by
  unfold selected
  rw [List.mem_filter, mem_inScope]

theorem mem_selected_forKey {d : Dimension} {key : String} {g : Granularity}
    {account : Option Int} :
    m ∈ a.selected (.forKey d key g account) ↔
      (m ∈ a.messages ∧ m.inScope account false = true) ∧ m.hasKey d g key = true := by
  have ha : (Filter.forKey d key g account).account = account := Filter.account_apply ..
  have hs : (Filter.forKey d key g account).attachmentsOnly = false :=
    Filter.attachmentsOnly_apply ..
  rw [mem_selected, ha, hs, Filter.passes_forKey]

theorem providerIds_forKey (a : Archive) (d : Dimension) (key : String) (g : Granularity)
    (account : Option Int) :
    a.providerIds (.forKey d key g account) =
      .ok ((a.selected (.forKey d key g account)).map Message.providerId) :=
  if_pos (Filter.isConstrained_apply ..)

end Archive
end MailBrowser
