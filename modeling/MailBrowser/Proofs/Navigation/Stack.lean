import MailBrowser.Proofs.Browser.Orderly

/-!
# The stack of crumbs

A step leaves one crumb, takes one up, drops all of them or touches none.

* `Way.climb`         the ways by what they do to the stack, `update_crumbs` the crumbs after a step;
* `Reachable.crumbs_bare`   the views of crumbs hold nothing that was loaded;
* `StaysAbove`        a run during which the stack is never lower than some height;
* `suffix_of_staysAbove`   such a run does not reach into the crumbs below;
* `OfAccount`         every view on the way is of the account that is looked at;
                      `Reachable.ofAccount` in every session;
* `Linked`            the rows of the archive lie at the bottom, and a message lies on the list
                      or the thread that it was opened from; `Reachable.linked` in every session.
-/

namespace MailBrowser
namespace Browser

variable {b c : Browser}

theorem goBack_crumbs {crumb : Crumb} {rest : List Crumb} (h : b.crumbs = crumb :: rest) :
    b.goBack.1.crumbs = rest := by
  rw [goBack_eq h]
  split
  · rfl
  · exact (reload_samePlace _).crumbs

/-- A way leaves the stack alone, or is one down, back, or to the top. -/
theorem Way.climb {s : Step} (h : Way b s) (hb : b.Orderly) :
    s.1.crumbs = b.crumbs ∨ (∃ c, Down b c ∧ Entry b c s) ∨
      (s = b.goBack ∧ ∃ crumb rest, b.crumbs = crumb :: rest) ∨ ∃ c, Top b c ∧ RowsEnding c s := by
  cases h with
  | stay h => exact .inl h.sameScene.crumbs
  | line h => exact .inl h.crumbs
  | regroup hl h hs => exact .inl (hs.ending.samePlace.crumbs.trans h.crumbs)
  | relist hl h => exact .inl h.crumbs
  | search hl h => exact .inl h.crumbs
  | retake hl h => exact .inl h.crumbs
  | turn m hl h => exact .inl h.crumbs
  | down h he => exact .inr (.inl ⟨_, h, he⟩)
  | back hf h => exact .inr (.inr (.inl ⟨rfl, _, _, h⟩))
  | top h hs => exact .inr (.inr (.inr ⟨_, h, hs⟩))
  | stray hn h => exact absurd hb hn

theorem Way.crumbs {s : Step} (h : Way b s) (hb : b.Orderly) :
    s.1.crumbs = b.crumbs ∨ s.1.crumbs = b.crumb :: b.crumbs ∨
      (∃ crumb, b.crumbs = crumb :: s.1.crumbs) ∨ s.1.crumbs = [] := by
  rcases h.climb hb with hc | ⟨c, hd, he⟩ | ⟨rfl, crumb, rest, hc⟩ | ⟨c, ht, hs⟩
  · exact .inl hc
  · exact .inr (.inl (he.ending.samePlace.crumbs.trans hd.crumbs))
  · exact .inr (.inr (.inl ⟨crumb, by rw [goBack_crumbs hc, hc]⟩))
  · exact .inr (.inr (.inr (hs.ending.samePlace.crumbs.trans ht.crumbs)))

theorem update_crumbs (hb : b.Orderly) (e : Event) :
    (b.update e).1.crumbs = b.crumbs ∨ (b.update e).1.crumbs = b.crumb :: b.crumbs ∨
      (∃ crumb, b.crumbs = crumb :: (b.update e).1.crumbs) ∨ (b.update e).1.crumbs = [] := by
  rcases update_way b e with h | ⟨k, c, -, hs, hc⟩
  · exact h.crumbs hb
  · rw [hs]
    exact .inl hc.crumbs

/-- The view of a crumb holds nothing that was loaded. -/
def CrumbsBare (b : Browser) : Prop := ∀ crumb ∈ b.crumbs, crumb.view.data = {}

theorem CrumbsBare.of_crumbs (h : c.crumbs = b.crumbs) (hb : b.CrumbsBare) : c.CrumbsBare := by
  unfold CrumbsBare
  rw [h]
  exact hb

theorem crumbsBare_kept : Kept CrumbsBare where
  launch _ crumb hc := by cases hc
  place h := .of_crumbs h.crumbs
  line h := .of_crumbs h.crumbs
  here h := .of_crumbs h.crumbs
  down h _ hb crumb hc := by
    rw [h.crumbs] at hc
    rcases List.mem_cons.1 hc with rfl | hc
    · rfl
    · exact hb crumb hc
  resume h hb crumb hc := hb crumb (by rw [h]; exact List.mem_cons_of_mem _ hc)
  top h crumb hc := by
    rw [h.crumbs] at hc
    cases hc

theorem Reachable.crumbs_bare (h : Reachable b) : b.CrumbsBare := crumbsBare_kept.reachable h

/-! ## runs above a height -/

def StaysAbove (height : Nat) (b : Browser) : List Event → Prop
  | [] => height ≤ b.crumbs.length
  | e :: es => height ≤ b.crumbs.length ∧ StaysAbove height (b.update e).1 es

instance decidableStaysAbove (height : Nat) :
    (b : Browser) → (es : List Event) → Decidable (StaysAbove height b es)
  | b, [] => inferInstanceAs (Decidable (height ≤ b.crumbs.length))
  | b, e :: es =>
    have := decidableStaysAbove height (b.update e).1 es
    inferInstanceAs (Decidable (height ≤ b.crumbs.length ∧ StaysAbove height (b.update e).1 es))

theorem StaysAbove.le {height : Nat} {es : List Event} (h : StaysAbove height b es) :
    height ≤ b.crumbs.length := by
  cases es with
  | nil => exact h
  | cons e es => exact h.1

theorem StaysAbove.le_run {height : Nat} {es : List Event} (h : StaysAbove height b es) :
    height ≤ (b.run es).1.crumbs.length := by
  induction es generalizing b with
  | nil => exact h
  | cons e es ih => exact ih h.2

theorem StaysAbove.mono {low high : Nat} {es : List Event} (h : StaysAbove high b es)
    (hl : low ≤ high) : StaysAbove low b es := by
  induction es generalizing b with
  | nil => exact Nat.le_trans hl h
  | cons e es ih => exact ⟨Nat.le_trans hl h.1, ih h.2⟩

theorem StaysAbove.concat {height : Nat} {es : List Event} {e : Event} (h : StaysAbove height b es)
    (he : height ≤ ((b.run es).1.update e).1.crumbs.length) : StaysAbove height b (es ++ [e]) := by
  induction es generalizing b with
  | nil => exact ⟨h, he⟩
  | cons f es ih => exact ⟨h.1, ih h.2 he⟩

theorem suffix_step {base : List Crumb} (hb : b.Orderly) (hs : base <:+ b.crumbs) (e : Event)
    (h : base.length ≤ (b.update e).1.crumbs.length) : base <:+ (b.update e).1.crumbs := by
  rcases update_crumbs hb e with hc | hc | ⟨crumb, hc⟩ | hc
  · rw [hc]; exact hs
  · rw [hc]
    exact hs.trans (List.suffix_cons _ _)
  · rw [hc, List.suffix_cons_iff] at hs
    rcases hs with rfl | hs
    · rw [List.length_cons] at h
      omega
    · exact hs
  · rw [hc] at h ⊢
    exact List.suffix_nil.2 (List.length_eq_zero_iff.1 (Nat.le_zero.1 h))

/-- **What lies below the lowest height of a run is not touched.** -/
theorem suffix_of_staysAbove {base : List Crumb} {es : List Event} (hb : b.Orderly)
    (hs : base <:+ b.crumbs) (h : StaysAbove base.length b es) :
    base <:+ (b.run es).1.crumbs := by
  induction es generalizing b with
  | nil => exact hs
  | cons e es ih =>
    have hu : base <:+ (b.update e).1.crumbs := suffix_step hb hs e h.2.le
    exact ih (update_orderly hb e) hu h.2

/-! ## accounts -/

structure OfAccount (b : Browser) : Prop where
  view : b.view.filter.account = b.account
  crumbs : ∀ crumb ∈ b.crumbs, crumb.view.filter.account = b.account

theorem OfAccount.of_crumbs (hb : b.OfAccount) (hc : c.crumbs = b.crumbs)
    (ha : c.account = b.account) (hf : c.view.filter.account = b.view.filter.account) :
    c.OfAccount where
  view := by rw [hf, ha, hb.view]
  crumbs := by
    rw [hc, ha]
    exact hb.crumbs

theorem ofAccount_kept : Kept OfAccount where
  launch _ := ⟨rfl, fun crumb hc => by cases hc⟩
  place h hb := hb.of_crumbs h.crumbs h.account (by rw [h.filter])
  line h hb := by
    refine hb.of_crumbs h.crumbs h.account ?_
    rw [View.of_outline View.filter (fun _ => rfl) h.outline]
  here h hb := hb.of_crumbs h.crumbs h.account (by rw [h.filter])
  down h _ hb := by
    refine ⟨?_, ?_⟩
    · rw [h.account]
      exact h.filter hb.view
    · rw [h.crumbs, h.account]
      intro crumb hc
      rcases List.mem_cons.1 hc with rfl | hc
      · exact hb.view
      · exact hb.crumbs crumb hc
  resume {b crumb rest} h hb := by
    have hc := hb.crumbs
    rw [h] at hc
    refine ⟨?_, fun d hd => hc d (List.mem_cons_of_mem _ hd)⟩
    rw [View.of_outline View.filter (fun _ => rfl) (outline_resume b crumb rest)]
    exact hc crumb List.mem_cons_self
  top h := by
    refine ⟨h.filter, fun crumb hc => ?_⟩
    rw [h.crumbs] at hc
    cases hc

theorem Reachable.ofAccount (h : Reachable b) : b.OfAccount := ofAccount_kept.reachable h

/-! ## messages and their lists -/

/-- At the bottom lie the rows of the archive, and a message on what it was opened from. -/
def Linked : View → List Crumb → Prop
  | v, [] => v.level = .groups
  | v, crumb :: rest =>
    (v.level = .reading → crumb.view.level = if v.readingFromThread then .thread else .list) ∧
      Linked crumb.view rest

theorem Linked.congr {v w : View} {cs : List Crumb} (h : Linked v cs) (hl : w.level = v.level)
    (hf : w.readingFromThread = v.readingFromThread) : Linked w cs := by
  cases cs with
  | nil =>
    show w.level = .groups
    rw [hl]; exact h
  | cons crumb rest =>
    refine ⟨?_, h.2⟩
    rw [hl, hf]; exact h.1

theorem Linked.of_outline {v w : View} {cs : List Crumb} (h : Linked v cs)
    (ho : w.outline = v.outline) : Linked w cs :=
  h.congr (View.of_outline View.level (fun _ => rfl) ho)
    (View.of_outline View.readingFromThread (fun _ => rfl) ho)

theorem Linked.of_not_reading {v w : View} {cs : List Crumb} (h : Linked v cs)
    (hl : w.level = v.level) (hw : v.level ≠ .reading) : Linked w cs := by
  cases cs with
  | nil =>
    show w.level = .groups
    rw [hl]; exact h
  | cons crumb rest => exact ⟨fun hr => absurd (hl.symm.trans hr) hw, h.2⟩

theorem not_reading_of_grouped {l : Level} (h : l.isGrouped = true) : l ≠ .reading := by
  rintro rfl
  cases h

theorem Entry.linked {s : Step} (he : Entry b c s) {reusable : Bool} {mode : SearchMode}
    {total : Int} (h : Linked b.view b.crumbs) :
    Linked c.view (.leave b.view reusable mode total :: b.crumbs) := by
  refine ⟨fun hr => ?_, h.congr rfl rfl⟩
  cases he with
  | list hb hc => rw [hc] at hr; cases hr
  | results hb hc => rw [hc] at hr; cases hr
  | rows hb hc => rw [hc] at hr; cases hr
  | message m hb hc hf => exact hf
  | thread hb hc => rw [hc] at hr; cases hr

theorem goBack_linked {crumb : Crumb} {rest : List Crumb} (h : b.crumbs = crumb :: rest)
    (hl : Linked b.view b.crumbs) : Linked b.goBack.1.view b.goBack.1.crumbs := by
  rw [h] at hl
  have hr : Linked (b.resume crumb rest).view rest := hl.2.of_outline (outline_resume b crumb rest)
  rw [goBack_crumbs h, goBack_eq h]
  split
  · exact hr
  · rw [reload_view]
    exact hr

/-- No way to end changes what a view lies on. -/
theorem Ending.linked {s : Step} (h : Ending c s) (hl : Linked c.view c.crumbs) :
    Linked s.1.view s.1.crumbs := by
  rw [h.samePlace.crumbs]
  exact hl.of_outline h.samePlace.outline

theorem Way.linked {s : Step} (h : Way b s) (hb : b.Orderly) (hl : Linked b.view b.crumbs) :
    Linked s.1.view s.1.crumbs := by
  cases h with
  | stay h =>
    rw [h.sameScene.crumbs]
    exact hl.of_outline h.sameScene.outline
  | line h =>
    refine Ending.nothing.linked ?_
    rw [h.crumbs]
    exact hl.of_outline h.outline
  | regroup hg h hs =>
    refine hs.ending.linked ?_
    rw [h.crumbs]
    exact hl.of_not_reading h.level (not_reading_of_grouped hg)
  | relist hg h =>
    refine Ending.messages.linked ?_
    rw [h.crumbs]
    exact hl.of_not_reading h.level (by rw [hg]; decide)
  | search hg h =>
    refine (Ending.search _ _).linked ?_
    rw [h.crumbs]
    exact hl.of_not_reading h.level (by rw [hg]; decide)
  | retake hg h =>
    refine Ending.nothing.linked ?_
    rw [h.crumbs]
    exact hl.of_not_reading h.level (by rw [hg]; decide)
  | turn m hg h hf hd hm =>
    refine (Ending.detail m hm).linked ?_
    rw [h.crumbs]
    exact hl.congr h.level hf
  | down h he =>
    refine he.ending.linked ?_
    rw [h.crumbs]
    exact he.linked hl
  | back hf h => exact goBack_linked h hl
  | top h hs =>
    refine hs.ending.linked ?_
    rw [h.crumbs]
    exact h.level
  | stray hn h => exact absurd hb hn

theorem Filled.linked {k : LoadKind} (h : Filled b k c) (hl : Linked b.view b.crumbs) :
    Linked c.view c.crumbs := by
  rw [h.crumbs]
  exact hl.of_outline h.outline

theorem Reachable.linked (h : Reachable b) : Linked b.view b.crumbs :=
  h.induct_ways (P := fun b => Linked b.view b.crumbs) (fun _ => rfl)
    (fun _ _ ho h hl => h.linked ho hl) fun _ _ _ h hl => h.linked hl

end Browser
end MailBrowser
