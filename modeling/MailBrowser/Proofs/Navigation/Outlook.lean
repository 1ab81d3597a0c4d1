import Mathlib.Data.List.Induction
import MailBrowser.Proofs.Navigation.Return
import MailBrowser.Proofs.Navigation.Sight

/-!
# The scope of the views

A browser looks at an account, and perhaps only at what has attachments.  The filters of the views
have that scope too, and are changed one at a time: by a change of the scope, only the filter of the
view on screen.

* `outlook`         the scope of a browser, of its view, and the crumbs;
* `Rescope`         all that steps do to an outlook, `update_rescope`;
* `ScopeLeft`       the scope was changed in a view that has been left upwards since;
* `Overtaken`       the scope was changed above a view, or has been left so;
* `session_inStep`  a view has the scope of the browser, unless its own has been left.
-/

namespace MailBrowser
namespace Browser

def outlook (b : Browser) : Option Int × Bool × Level × Bool × List Crumb :=
  (b.account, b.attachmentsOnly, b.view.level, b.view.filter.attachmentsOnly, b.crumbs)

inductive Rescope (b c : Browser) : Prop where
  | stay (hv : c.outlook = b.outlook)
  | set (only : Bool) (hv : c.outlook = (b.account, only, b.view.level, only, b.crumbs))
  /-- The filter starts from the scope at the top, and from the view that is left elsewhere. -/
  | down (level : Level) (only : Bool) (hl : level ≠ .groups)
      (ho : only = b.attachmentsOnly ∨
        (b.view.level ≠ .groups ∧ only = b.view.filter.attachmentsOnly))
      (hv : c.outlook = (b.account, b.attachmentsOnly, level, only, b.crumb :: b.crumbs))
  | back (crumb : Crumb) (rest : List Crumb) (hc : b.crumbs = crumb :: rest)
      (hv : c.outlook = (b.account, b.attachmentsOnly, crumb.view.level,
        crumb.view.filter.attachmentsOnly, rest))
  /-- Nothing is left of another account. -/
  | top (account : Option Int) (only : Bool) (hs : c.scene = (({} : View).sight, [], none))
      (hv : c.outlook = (account, b.attachmentsOnly, .groups, only, []))

variable {b c : Browser}

theorem SamePlace.rescope (h : SamePlace b c) : Rescope b c := by
  refine .stay ?_
  unfold outlook
  rw [h.account, h.attachmentsOnly, h.level, h.filter, h.crumbs]

theorem Quiet.rescope (h : Quiet b c) : Rescope b c := h.toSamePlace.rescope

theorem Quietly.rescope {s : Step} (h : Quietly b s) : Rescope b s.1 := h.sameScene.toSamePlace.rescope

variable (b)

/-! ## down, back and to the top -/

theorem drillBase_only : b.drillBase.attachmentsOnly = b.attachmentsOnly ∨
    (b.view.level ≠ .groups ∧ b.drillBase.attachmentsOnly = b.view.filter.attachmentsOnly) := by
  unfold drillBase
  split
  · exact .inl rfl
  · rename_i hl
    exact .inr ⟨hl, rfl⟩

theorem drill_rescope : Rescope b b.drill.1 := by
  unfold drill
  split
  · exact .stay rfl
  · refine .down .list _ (by decide) ?_ rfl
    show (b.drillBase.apply _ _ _).attachmentsOnly = _ ∨
      (_ ∧ (b.drillBase.apply _ _ _).attachmentsOnly = _)
    rw [Filter.attachmentsOnly_apply]
    exact drillBase_only b

theorem showAll_rescope : Rescope b b.showAll.1 := by
  unfold showAll
  by_cases hl : b.view.level = .groups
  · rw [if_pos hl]
    dsimp only
    split <;> exact .down .list _ (by decide) (.inl rfl) rfl
  · rw [if_neg hl]
    dsimp only
    split <;> exact .down .list _ (by decide) (.inr ⟨hl, rfl⟩) rfl

variable {b} in
theorem groupWithin_rescope (hl : b.view.level = .list) (d : Dimension) :
    Rescope b (b.groupWithin d).1 :=
  .down .subgroups _ (by decide) (.inr ⟨by rw [hl]; decide, rfl⟩) rfl

variable {b} in
theorem groupByTime_rescope (hl : b.view.level = .list) : Rescope b b.groupByTime.1 := by
  unfold groupByTime
  split
  · exact groupWithin_rescope hl .time
  · exact .stay rfl

variable {b} in
theorem openMessage_rescope (fromThread : Bool) (hl : b.view.level = if fromThread then .thread else .list) :
    Rescope b (b.openMessage fromThread).1 := by
  have hn : b.view.level ≠ .groups := by rw [hl]; cases fromThread <;> decide
  unfold openMessage
  dsimp only
  split
  · exact .stay rfl
  · exact .down .reading _ (by decide) (.inr ⟨hn, rfl⟩) rfl

variable {b} in
theorem openThread_rescope (hl : b.view.level = .list ∨ b.view.level = .reading) :
    Rescope b b.openThread.1 := by
  have hn : b.view.level ≠ .groups := by rcases hl with hl | hl <;> rw [hl] <;> decide
  unfold openThread
  split
  · exact .stay rfl
  · exact .down .thread _ (by decide) (.inr ⟨hn, rfl⟩) rfl

theorem reload_outlook : b.reload.1.outlook = b.outlook := by
  have h := reload_samePlace b
  unfold outlook
  rw [reload_view, h.account, h.attachmentsOnly, h.crumbs]

theorem goBack_rescope : Rescope b b.goBack.1 := by
  cases hc : b.crumbs with
  | nil =>
    refine .stay ?_
    unfold goBack
    rw [hc]
  | cons crumb rest =>
    have hr : (b.resume crumb rest).outlook = (b.account, b.attachmentsOnly, crumb.view.level,
        crumb.view.filter.attachmentsOnly, rest) := by
      have hf : (b.resume crumb rest).view.filter = crumb.view.filter :=
        View.of_outline View.filter (fun _ => rfl) (outline_resume b crumb rest)
      unfold outlook
      rw [hf, level_resume]
      rfl
    refine .back crumb rest hc ?_
    rw [goBack_eq hc]
    split
    · exact hr
    · rw [reload_outlook, hr]

/-! ## at one level -/

theorem pressTime_rescope : Rescope b b.pressTime.1 := by
  unfold pressTime
  split
  · exact .stay rfl
  · split <;> exact .stay rfl

theorem nextSort_rescope : Rescope b b.nextSort.1 := by
  unfold nextSort
  split
  · exact .stay rfl
  · exact .stay rfl
  · exact .stay (reload_outlook _)
  · exact .stay rfl

theorem flipSort_rescope : Rescope b b.flipSort.1 := by
  unfold flipSort
  split
  · exact .stay rfl
  · exact .stay rfl
  · exact .stay (reload_outlook _)
  · exact .stay rfl

theorem turnMessage_rescope (delta : Int) : Rescope b (b.turnMessage delta).1 := by
  unfold turnMessage
  dsimp only
  split
  · exact .stay rfl
  · split
    · exact .stay rfl
    · split
      · exact .stay rfl
      · unfold followReading
        split <;> exact .stay rfl

/-! ## the search line -/

@[simp] theorem withSearch_outlook (search : SearchSession) :
    (b.withSearch search).outlook = b.outlook := rfl

@[simp] theorem withQuery_outlook (query : String) : (b.withQuery query).outlook = b.outlook := rfl

@[simp] theorem loadRows_outlook : b.loadRows.1.outlook = b.outlook := rfl

@[simp] theorem loadMessages_outlook : b.loadMessages.1.outlook = b.outlook := rfl

@[simp] theorem searchAfresh_outlook : b.searchAfresh.1.outlook = b.outlook := rfl

@[simp] theorem clearGroupSearch_outlook : b.clearGroupSearch.1.outlook = b.outlook := rfl

@[simp] theorem clearSearch_outlook : b.clearSearch.1.outlook = b.outlook := by
  unfold clearSearch
  dsimp only
  split <;> rfl

theorem openSearch_rescope : Rescope b b.openSearch.1 := by
  unfold openSearch
  split <;> exact .stay rfl

theorem cancelSearch_rescope : Rescope b b.cancelSearch.1 := by
  unfold cancelSearch
  dsimp only
  split
  · exact .stay (by simp)
  · split
    · exact .stay (by simp)
    · split <;> exact .stay (by simp)

theorem commitSearch_rescope : Rescope b b.commitSearch.1 := by
  unfold commitSearch
  dsimp only
  split
  · exact cancelSearch_rescope b
  · split
    · exact .stay (by simp)
    · split <;> exact .stay (by simp)
    · split <;> exact .stay (by simp)
    · exact .stay (by simp)

theorem toggleMode_rescope : Rescope b b.toggleMode.1 := by
  unfold toggleMode
  split
  · dsimp only
    split <;> exact .stay (by simp)
  · exact .stay rfl

theorem applyQuery_rescope (query : String) : Rescope b (b.applyQuery query).1 := by
  unfold applyQuery
  dsimp only
  split
  · split <;> exact .stay (by simp)
  · exact .stay rfl
  · exact .stay rfl
  · exact .stay rfl

theorem ticked_rescope (query : String) (token : Nat) : Rescope b (b.ticked query token).1 := by
  unfold ticked
  split
  · exact applyQuery_rescope b _
  · exact .stay rfl

/-! ## all steps -/

variable {b}

theorem KeyStep.rescope {s : Step} (h : KeyStep b s) : Rescope b s.1 := by
  cases h with
  | chooseAccount cursor => exact .top _ _ rfl rfl
  | chooseScope cursor => exact .set _ (reload_outlook _)
  | chooseFiles cursor chosen => exact ((exportChosen_quietly _ _).after (closeDialog_quiet b)).rescope
  | cancelLine => exact cancelSearch_rescope b
  | commitLine => exact commitSearch_rescope b
  | toggleMode => exact toggleMode_rescope b
  | find input k => exact (pressInFind_quiet b input k).rescope
  | moveCursor delta => exact (moveCursor_quietly b delta).rescope
  | pageDown rows => exact (pageDown_quietly b rows).rescope
  | toStart => exact (toStart_quietly b).rescope
  | toEnd => exact (toEnd_quietly b).rescope
  | drill => exact drill_rescope b
  | showAll => exact showAll_rescope b
  | groupBy hb hl => exact groupWithin_rescope hl _
  | groupByTime hb hl => exact groupByTime_rescope hl
  | openMessage fromThread hb hl => exact openMessage_rescope fromThread hl
  | openThread hb hl => exact openThread_rescope hl
  | goBack => exact goBack_rescope b
  | goToTop => exact .top _ _ rfl rfl
  | pressTime => exact pressTime_rescope b
  | nextSort => exact nextSort_rescope b
  | flipSort => exact flipSort_rescope b
  | openSearch => exact openSearch_rescope b
  | cancelSearch => exact cancelSearch_rescope b
  | toggleMark => exact (toggleMark_quiet b).rescope
  | markVisible => exact (markVisible_quiet b).rescope
  | stageMarked orCurrent => exact (stageMarked_quietly b orCurrent).rescope
  | turnMessage delta => exact turnMessage_rescope b delta
  | stepHit forward => exact (stepHit_quiet b forward).rescope
  | openExport => exact (openExport_quietly b).rescope
  | _ => exact .stay rfl

/-- **Every step leaves the outlook, sets the scope, or goes to another view.** -/
theorem update_rescope (b : Browser) (e : Event) : Rescope b (b.update e).1 := by
  have taken_in {k : LoadKind} {n : Nat} {d : Browser}
      (h : d = b ∨ (n = b.ledger.current k ∧ Filled b k d)) : Rescope b d := by
    rcases h with rfl | ⟨-, h⟩
    · exact .stay rfl
    · exact h.toSamePlace.rescope
  cases e with
  | key k => exact (press_keyStep b k).rescope
  | searchTick query token => exact ticked_rescope b query token
  | resize height => exact (resize_quiet b height).rescope
  | rowsLoaded id r => exact taken_in (rowsArrived_filled b id r)
  | messagesLoaded id r => exact taken_in (messagesArrived_filled b id r)
  | threadLoaded id r => exact taken_in (threadArrived_filled b id r)
  | detailLoaded id r => exact taken_in (detailArrived_filled b id r)
  | searchLoaded id append r => exact taken_in (searchArrived_filled b id append r)
  | flashExpired generation => exact (expireFlash_quiet b generation).rescope
  | statsLoaded r => exact (statsArrived_quiet b r).rescope
  | accountsLoaded r => exact (accountsArrived_quiet b r).rescope
  | manifestBuilt r => exact (manifestBuilt_quietly b r).rescope
  | manifestSaved r => exact (manifestSaved_quietly b r).rescope
  | exportFinished r => exact (exportFinished_quietly b r).rescope

/-! ## sessions -/

/-- The scope was changed by an event, in a view that was left upwards after it, and the top has not
been gone back to since. -/
def ScopeLeft (c : Config) (es : List Event) : Prop :=
  ∃ before e after, es = before ++ e :: after ∧
    let b := (session c before).1
    let d := (session c (before ++ [e])).1
    d.attachmentsOnly ≠ b.attachmentsOnly ∧ StaysAbove 1 d after ∧
      ¬ StaysAbove b.crumbs.length d after

/-- The scope was changed above a height, or in a view that was left upwards, and the top has not
been gone back to since. -/
def Overtaken (c : Config) (es : List Event) (height : Nat) : Prop :=
  ∃ before e after, es = before ++ e :: after ∧
    let b := (session c before).1
    let d := (session c (before ++ [e])).1
    d.attachmentsOnly ≠ b.attachmentsOnly ∧ StaysAbove 1 d after ∧
      (height < b.crumbs.length ∨ ¬ StaysAbove b.crumbs.length d after)

variable {cfg : Config} {es : List Event} {e : Event} {height : Nat}

theorem StaysAbove.of_concat (h : StaysAbove height b (es ++ [e])) : StaysAbove height b es := by
  induction es generalizing b with
  | nil => exact h.1
  | cons f es ih => exact ⟨h.1, ih h.2⟩

theorem session_after (c : Config) (before : List Event) (e : Event) (after : List Event) :
    (session c (before ++ e :: after)).1 = ((session c (before ++ [e])).1.run after).1 := by
  rw [session_split, session_concat]

theorem ScopeLeft.overtaken (h : ScopeLeft cfg es) (height : Nat) : Overtaken cfg es height := by
  obtain ⟨before, e, after, rfl, hc, ha, hn⟩ := h
  exact ⟨before, e, after, rfl, hc, ha, .inr hn⟩

/-- What was changed above the view on screen has been left. -/
theorem Overtaken.left (h : Overtaken cfg es (session cfg es).1.crumbs.length) :
    ScopeLeft cfg es := by
  obtain ⟨before, e, after, rfl, hc, ha, hlt⟩ := h
  refine ⟨before, e, after, rfl, hc, ha, fun hs => ?_⟩
  rcases hlt with hlt | hn
  · have hle := hs.le_run
    rw [← session_after] at hle
    omega
  · exact hn hs

theorem Overtaken.concat (h : Overtaken cfg es height)
    (hc : (session cfg (es ++ [e])).1.crumbs ≠ []) : Overtaken cfg (es ++ [e]) height := by
  obtain ⟨before, f, after, rfl, hf, ha, hlt⟩ := h
  refine ⟨before, f, after ++ [e], by simp, hf, ha.concat ?_, hlt.imp id fun hn hs => hn hs.of_concat⟩
  rw [← session_after, ← session_concat]
  exact List.length_pos_iff.2 hc

/-- Below the rows of the archive, which have no use for their filter, a view has the scope of the
browser unless it has been overtaken. -/
structure InStep (c : Config) (es : List Event) : Prop where
  view : (session c es).1.view.level ≠ .groups →
    (session c es).1.view.filter.attachmentsOnly = (session c es).1.attachmentsOnly ∨
      ScopeLeft c es
  crumbs : ∀ crumb rest, crumb :: rest <:+ (session c es).1.crumbs → crumb.view.level ≠ .groups →
    crumb.view.filter.attachmentsOnly = (session c es).1.attachmentsOnly ∨
      Overtaken c es rest.length

/-- The views below the one on screen after a step that leaves the scope. -/
theorem InStep.below (h : InStep cfg es)
    (ho : (session cfg (es ++ [e])).1.attachmentsOnly = (session cfg es).1.attachmentsOnly)
    (hn : (session cfg (es ++ [e])).1.crumbs ≠ []) {crumb : Crumb} {rest : List Crumb}
    (hs : crumb :: rest <:+ (session cfg es).1.crumbs) (hl : crumb.view.level ≠ .groups) :
    crumb.view.filter.attachmentsOnly = (session cfg (es ++ [e])).1.attachmentsOnly ∨
      Overtaken cfg (es ++ [e]) rest.length := by
  rw [ho]
  exact (h.crumbs crumb rest hs hl).imp id fun ht => ht.concat hn

theorem InStep.here (h : InStep cfg es)
    (ho : (session cfg (es ++ [e])).1.attachmentsOnly = (session cfg es).1.attachmentsOnly)
    (hn : (session cfg (es ++ [e])).1.crumbs ≠ []) (hl : (session cfg es).1.view.level ≠ .groups)
    (height : Nat) :
    (session cfg es).1.view.filter.attachmentsOnly = (session cfg (es ++ [e])).1.attachmentsOnly ∨
      Overtaken cfg (es ++ [e]) height := by
  rw [ho]
  exact (h.view hl).imp id fun ht => (ht.overtaken height).concat hn

/-- There is a way back from all but the rows of the archive. -/
theorem Reachable.crumbs_ne_nil (h : Reachable b) (hl : b.view.level ≠ .groups) : b.crumbs ≠ [] := by
  intro hc
  have hk := h.linked
  rw [hc] at hk
  exact hl hk

theorem ne_nil_of_suffix {crumb : Crumb} {rest crumbs : List Crumb}
    (h : crumb :: rest <:+ crumbs) : crumbs ≠ [] := by
  rintro rfl
  cases List.suffix_nil.1 h

theorem InStep.concat (h : InStep cfg es) (e : Event) : InStep cfg (es ++ [e]) := by
  have hr := session_reachable cfg (es ++ [e])
  have hu := update_rescope (session cfg es).1 e
  rw [← session_concat] at hu
  cases hu with
  | stay hv =>
    simp only [outlook, Prod.mk.injEq] at hv
    obtain ⟨-, ho, hl, hf, hc⟩ := hv
    refine ⟨fun hn => ?_, fun crumb rest hs hn => ?_⟩
    · rw [hf]
      rw [hl] at hn
      have hne := hr.crumbs_ne_nil (by rw [hl]; exact hn)
      exact (h.here ho hne hn _).imp id Overtaken.left
    · have hne := ne_nil_of_suffix hs
      rw [hc] at hs
      exact h.below ho hne hs hn
  | set only hv =>
    simp only [outlook, Prod.mk.injEq] at hv
    obtain ⟨-, ho, hl, hf, hc⟩ := hv
    refine ⟨fun hn => .inl (hf.trans ho.symm), fun crumb rest hs hn => ?_⟩
    have hne := ne_nil_of_suffix hs
    rw [hc] at hs
    by_cases hsame : only = (session cfg es).1.attachmentsOnly
    · exact h.below (ho.trans hsame) hne hs hn
    · -- a view that lies below is overtaken by the change
      refine .inr ⟨es, e, [], rfl, by rw [ho]; exact hsame, List.length_pos_iff.2 hne, .inl ?_⟩
      exact hs.length_le
  | down level only hl honly hv =>
    simp only [outlook, Prod.mk.injEq] at hv
    obtain ⟨-, ho, hlevel, hf, hc⟩ := hv
    have hne : (session cfg (es ++ [e])).1.crumbs ≠ [] := by rw [hc]; exact List.cons_ne_nil _ _
    refine ⟨fun _ => ?_, fun crumb rest hs hn => ?_⟩
    · rw [hf]
      rcases honly with honly | ⟨hb, honly⟩
      · exact .inl (honly.trans ho.symm)
      · rw [honly]
        exact (h.here ho hne hb _).imp id Overtaken.left
    · rw [hc, List.suffix_cons_iff] at hs
      rcases hs with hs | hs
      · cases hs
        exact h.here ho hne hn _
      · exact h.below ho hne hs hn
  | back crumb rest hcrumbs hv =>
    simp only [outlook, Prod.mk.injEq] at hv
    obtain ⟨-, ho, hl, hf, hc⟩ := hv
    have hsuf : crumb :: rest <:+ (session cfg es).1.crumbs := ⟨[], hcrumbs.symm⟩
    refine ⟨fun hn => ?_, fun other below hs hn => ?_⟩
    · have hne := hr.crumbs_ne_nil hn
      rw [hf]
      rw [hl] at hn
      refine (h.below ho hne hsuf hn).imp id fun ht => ?_
      rw [← hc] at ht
      exact ht.left
    · have hne := ne_nil_of_suffix hs
      rw [hc] at hs
      exact h.below ho hne (hs.trans ((List.suffix_cons _ _).trans hsuf)) hn
  | top account only hs hv =>
    simp only [outlook, Prod.mk.injEq] at hv
    obtain ⟨-, -, hl, -, hc⟩ := hv
    refine ⟨fun hn => absurd hl hn, fun crumb rest hs _ => absurd hc (ne_nil_of_suffix hs)⟩

theorem session_inStep (c : Config) (es : List Event) : InStep c es := by
  induction es using List.reverseRecOn with
  | nil =>
    exact ⟨fun hn => absurd rfl hn, fun crumb rest hs _ => absurd rfl (ne_nil_of_suffix hs)⟩
  | append_singleton es e ih => exact ih.concat e

end Browser
end MailBrowser
