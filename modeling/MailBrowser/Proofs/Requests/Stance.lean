import MailBrowser.Proofs.Navigation.Stack

/-!
# What requests ask for

A request asks for what the view on screen stands for, at the moment it is made.

* `Stance`           what a request asks for, what a view stands for;
* `Effect.asks?`, `Browser.stance`   of a request, of a view in the eyes of a request;
* `Issues`           the state of the browser that has just made a request;
* `update_asks`, `update_issues`    both hold of every request of a step.
-/

namespace MailBrowser

inductive Stance where
  /-- with the filter of the drill, if the rows are not those of the whole archive -/
  | rows (dimension : Dimension) (filter : Option Filter) (granularity : Granularity)
      (query : Option String)
  | messages (filter : Filter)
  | thread (conversation : Option Int)
  | message (id : Option Int)
  | results (query : String) (mode : SearchMode) (filter : Filter)
deriving DecidableEq

def Effect.asks? : Effect → Option Stance
  | .loadRows _ d f o => some (.rows d f o.granularity o.search)
  | .loadMessages _ f _ => some (.messages f)
  | .loadThread _ _ o => some (.thread o.conversation)
  | .loadDetail _ m => some (.message (some m))
  | .search _ r => some (.results r.query r.mode r.filter)
  | _ => none

def View.rowStance (v : View) : Stance :=
  .rows v.dimension (if v.level = .subgroups then some v.filter else none) v.granularity
    (if v.query.isEmpty then none else some v.query)

def View.readingId? (v : View) : Option Int := v.readingList[v.readingIndex]?.map Summary.id

namespace Browser

def stance (b : Browser) : Effect → Option Stance
  | .loadRows _ _ _ _ => some b.view.rowStance
  | .loadMessages _ _ _ => some (.messages b.listFilter)
  | .loadThread _ _ _ => some (.thread (some b.view.conversation))
  | .loadDetail _ _ => some (.message b.view.readingId?)
  | .search _ _ => some (.results b.view.query b.search.mode b.listFilter)
  | _ => none

variable {b c : Browser}

theorem Ending.asks {s : Step} (h : Ending c s) {x : Effect} (hx : x ∈ s.2)
    (hs : x.stamp?.isSome = true) : x.asks? = s.1.stance x := by
  cases h with
  | nothing => cases hx
  | notice text =>
    rw [List.mem_singleton.1 hx] at hs
    cases hs
  | other y hy hn =>
    rw [List.mem_singleton.1 hx, hy] at hs
    cases hs
  | rows => rw [List.mem_singleton.1 hx]; rfl
  | rowsAndStats =>
    rcases List.mem_append.1 hx with h | h
    · rw [List.mem_singleton.1 h]; rfl
    · rw [List.mem_singleton.1 h] at hs
      cases hs
  | messages => rw [List.mem_singleton.1 hx]; rfl
  | thread => rw [List.mem_singleton.1 hx]; rfl
  | detail m hm =>
    rw [List.mem_singleton.1 hx]
    exact congrArg (fun i => some (Stance.message i)) hm.symm
  | search offset append =>
    rw [List.mem_singleton.1 hx]
    cases append <;> rfl

theorem update_asks {e : Event} {x : Effect} (hx : x ∈ (b.update e).2)
    (hs : x.stamp?.isSome = true) : x.asks? = (b.update e).1.stance x := by
  obtain ⟨c, hc, -⟩ := update_ends b e
  exact hc.asks hx hs

/-! ## who asks for what -/

/-- The browser is at the level of the request, and has nothing on screen that would outlive it. -/
def Issues (b : Browser) : Effect → Prop
  | .loadRows _ _ _ _ => b.view.level.isGrouped = true
  | .loadMessages _ _ _ => b.view.level = .list ∧ b.search.snapshot = none ∧ b.loading = true
  | .loadThread _ _ _ => b.view.level = .thread
  | .loadDetail _ _ => b.view.level = .reading ∧ b.view.data.detail = none
  | .search _ _ => b.view.level = .list
  | _ => True

theorem issues_of_no_stamp {x : Effect} (h : x.stamp? = none) : b.Issues x := by
  cases x with
  | loadRows => cases h
  | loadMessages => cases h
  | loadThread => cases h
  | loadDetail => cases h
  | search => cases h
  | _ => trivial

theorem RowsEnding.issues {s : Step} (h : RowsEnding c s) (hc : c.view.level.isGrouped = true)
    {x : Effect} (hx : x ∈ s.2) : s.1.Issues x := by
  cases h with
  | alone => rw [List.mem_singleton.1 hx]; exact hc
  | withStats =>
    rcases List.mem_append.1 hx with h | h
    · rw [List.mem_singleton.1 h]; exact hc
    · rw [List.mem_singleton.1 h]; trivial

theorem QuietEnding.issues {s : Step} (h : QuietEnding c s) {x : Effect} (hx : x ∈ s.2) :
    s.1.Issues x := by
  cases h with
  | nothing => cases hx
  | notice text => exact issues_of_no_stamp (by rw [List.mem_singleton.1 hx]; rfl)
  | other y hy hn => exact issues_of_no_stamp (by rw [List.mem_singleton.1 hx]; exact hy)
  | page offset hl hq => rw [List.mem_singleton.1 hx]; exact hl

theorem Entry.issues {s : Step} (h : Entry b c s) {x : Effect} (hx : x ∈ s.2) : s.1.Issues x := by
  cases h with
  | list hb hc hq hn => rw [List.mem_singleton.1 hx]; exact ⟨hc, hn, rfl⟩
  | results hb hc hq hn => rw [List.mem_singleton.1 hx]; exact hc
  | rows hb hc => rw [List.mem_singleton.1 hx]; show c.view.level.isGrouped = true; rw [hc]; rfl
  | message m hb hc hf hd hm => rw [List.mem_singleton.1 hx]; exact ⟨hc, hd⟩
  | thread hb hc => rw [List.mem_singleton.1 hx]; exact hc

theorem reload_issues (hn : b.search.snapshot = none)
    (hr : b.view.level = .reading → b.view.data = {}) {x : Effect} (hx : x ∈ b.reload.2) :
    b.reload.1.Issues x := by
  by_cases hg : b.view.level.isGrouped = true
  · rw [reload_grouped b hg] at hx ⊢
    rw [List.mem_singleton.1 hx]
    exact hg
  · cases hl : b.view.level with
    | groups => rw [hl] at hg; exact absurd rfl hg
    | subgroups => rw [hl] at hg; exact absurd rfl hg
    | list =>
      rw [reload_list b hl] at hx ⊢
      split at hx
      · rename_i hq
        rw [if_pos hq, List.mem_singleton.1 hx]
        exact ⟨hl, hn, rfl⟩
      · rename_i hq
        rw [if_neg hq, List.mem_singleton.1 hx]
        exact hl
    | thread =>
      rw [reload_thread b hl] at hx ⊢
      rw [List.mem_singleton.1 hx]
      exact hl
    | reading =>
      rw [reload_reading b hl (hr hl)] at hx
      cases hx

theorem goBack_issues {crumb : Crumb} {rest : List Crumb} (h : b.crumbs = crumb :: rest)
    (hd : crumb.view.data = {}) {x : Effect} (hx : x ∈ b.goBack.2) : b.goBack.1.Issues x := by
  rw [goBack_eq h] at hx ⊢
  split at hx
  · cases hx
  · rename_i hk
    rw [if_neg hk]
    refine reload_issues rfl (fun _ => ?_) hx
    show (resumeAfter b.view crumb.restore b.pageSize).data = {}
    rw [data_resumeAfter]
    have hn : crumb.kept = none := by
      cases hc : crumb.kept with
      | none => rfl
      | some d => exact absurd (by unfold Crumb.isKept; rw [hc]; rfl) hk
    show crumb.kept.getD crumb.view.data = {}
    rw [hn]
    exact hd

theorem Way.issues {s : Step} (h : Way b s) (hb : b.Orderly)
    (hd : ∀ crumb ∈ b.crumbs, crumb.view.data = {}) {x : Effect} (hx : x ∈ s.2) :
    s.1.Issues x := by
  cases h with
  | stay h =>
    obtain ⟨c, he, -⟩ := h
    exact he.issues hx
  | line h => cases hx
  | regroup hg h hs => exact hs.issues (by rw [h.level]; exact hg) hx
  | relist hg h hq hn =>
    rw [List.mem_singleton.1 hx]
    exact ⟨h.level.trans hg, hn hb, rfl⟩
  | search hg h =>
    rw [List.mem_singleton.1 hx]
    exact h.level.trans hg
  | retake hg h => cases hx
  | turn m hg h hf hd hm =>
    rw [List.mem_singleton.1 hx]
    exact ⟨h.level.trans hg, hd⟩
  | down h he => exact he.issues hx
  | back hf h => exact goBack_issues h (hd _ (by rw [h]; exact List.mem_cons_self)) hx
  | top h hs => exact hs.issues (by rw [h.level]; rfl) hx
  | stray hn h => exact absurd hb hn

theorem update_issues (hb : Reachable b) {e : Event} {x : Effect} (hx : x ∈ (b.update e).2) :
    (b.update e).1.Issues x := by
  rcases update_way b e with h | ⟨k, c, -, hs, hc⟩
  · exact h.issues hb.orderly hb.crumbs_bare hx
  · rw [hs] at hx; cases hx

end Browser
end MailBrowser
