import Mathlib.Data.List.Chain
import MailBrowser.Proofs.Navigation.Excursion

/-!
# The shape of the trail

From the rows of the archive up to the view on screen, every view lies on one that leads to it,
and holds its messages to no less.

* `Level.leadsTo`    the levels that a level is left for;
* `View.Sound`       what holds of every view by itself;
* `View.LiesOn`      what holds of two views, one left for the other;
* `Stride`           what a step does to the trail, `update_stride` for all steps;
* `Shaped`           a view and the crumbs below it, all sound and each on the next;
* `trail_shape`      the trails of all sessions.
-/

namespace MailBrowser

namespace Dimension

theorem step_ne (forward : Bool) (d : Dimension) : d.step forward ≠ d := by
  cases forward <;> cases d <;> decide

/-- The ring is walked past the dimension to skip. -/
theorem cycle_ne (forward : Bool) (skip d : Dimension) : d.cycle forward (some skip) ≠ skip := by
  unfold cycle
  dsimp only
  split
  · rename_i h
    rw [Option.some.inj h]
    exact step_ne forward _
  · rename_i h
    exact fun he => h (congrArg some he.symm)

theorem refine_ne (d : Dimension) : d.refine ≠ d := by cases d <;> decide

end Dimension

def Level.leadsTo : Level → Level → Bool
  | groups, list | list, subgroups | subgroups, list | list, reading | list, thread
  | reading, thread | thread, reading => true
  | _, _ => false

namespace View

/-- At the top nothing is held, and within a drill the rows are of another dimension than it. -/
structure Sound (v : View) : Prop where
  origin : v.filter.isConstrained = v.origin.isSome
  top : v.level = .groups → v.origin = none
  within : v.level = .subgroups → v.origin.isSome = true ∧ v.origin ≠ some v.dimension

/-- A message is read from the thread that it lies on, or from the list. -/
structure LiesOn (v below : View) : Prop where
  level : below.level.leadsTo v.level = true
  fromThread : v.level = .reading → (v.readingFromThread = true ↔ below.level = .thread)
  holds (d : Dimension) : below.filter.holds d = true → v.filter.holds d = true

/-- the same as far as the trail goes, but perhaps with other rows -/
structure Matches (v w : View) : Prop where
  level : w.level = v.level
  fromThread : w.readingFromThread = v.readingFromThread
  origin : w.origin = v.origin
  holds (d : Dimension) : w.filter.holds d = v.filter.holds d
  constrained : w.filter.isConstrained = v.filter.isConstrained

variable {v w below : View}

theorem Matches.of_parts (h : (w.level, w.readingFromThread, w.origin, w.filter) =
    (v.level, v.readingFromThread, v.origin, v.filter)) : v.Matches w := by
  simp only [Prod.mk.injEq] at h
  obtain ⟨hl, ht, ho, hf⟩ := h
  exact ⟨hl, ht, ho, fun d => by rw [hf], by rw [hf]⟩

theorem Matches.of_outline (h : w.outline = v.outline) : v.Matches w :=
  .of_parts (View.of_outline (fun u => (u.level, u.readingFromThread, u.origin, u.filter))
    (fun _ => rfl) h)

theorem Matches.liesOn (h : v.Matches w) (hv : v.LiesOn below) : w.LiesOn below := by
  refine ⟨?_, fun hr => ?_, fun d hd => ?_⟩
  · rw [h.level]
    exact hv.level
  · rw [h.level] at hr
    rw [h.fromThread]
    exact hv.fromThread hr
  · rw [h.holds]
    exact hv.holds d hd

/-- Other rows within a drill are not those of its own dimension. -/
theorem Matches.sound (h : v.Matches w) (hv : v.Sound)
    (hd : v.level = .subgroups → w.dimension = v.dimension ∨ v.origin ≠ some w.dimension) :
    w.Sound := by
  refine ⟨?_, fun hl => ?_, fun hl => ?_⟩
  · rw [h.constrained, h.origin]
    exact hv.origin
  · rw [h.level] at hl
    rw [h.origin]
    exact hv.top hl
  · rw [h.level] at hl
    rw [h.origin]
    refine ⟨(hv.within hl).1, ?_⟩
    rcases hd hl with he | hn
    · rw [he]
      exact (hv.within hl).2
    · exact hn

theorem Sound.of_outline (hv : v.Sound) (h : w.outline = v.outline) : w.Sound :=
  (Matches.of_outline h).sound hv fun _ => .inl (View.of_outline View.dimension (fun _ => rfl) h)

/-- At the top nothing is held. -/
theorem Sound.not_holds (hv : v.Sound) (hl : v.level = .groups) (d : Dimension) :
    v.filter.holds d = false := by
  refine Bool.eq_false_iff.2 fun hd => ?_
  have hc := Filter.isConstrained_iff.2 ⟨d, hd⟩
  rw [hv.origin, hv.top hl] at hc
  cases hc

end View

namespace Browser

variable {b : Browser}

/-! ## steps -/

inductive Stride (b : Browser) (s : Step) : Prop where
  | stay (hc : s.1.crumbs = b.crumbs) (hm : b.view.Matches s.1.view)
      (hs : b.view.Sound → s.1.view.Sound)
  | down (hc : s.1.crumbs = b.crumb :: b.crumbs)
      (hv : b.view.Sound → s.1.view.Sound ∧ s.1.view.LiesOn b.view)
  | back (crumb : Crumb) (hc : b.crumbs = crumb :: s.1.crumbs)
      (ho : s.1.view.outline = crumb.view.outline)
  | top (hc : s.1.crumbs = []) (hl : s.1.view.level = .groups) (hs : s.1.view.Sound)

theorem stride_of_outline {s : Step} (hc : s.1.crumbs = b.crumbs)
    (ho : s.1.view.outline = b.view.outline) : Stride b s :=
  .stay hc (.of_outline ho) fun hs => hs.of_outline ho

theorem stride_still (b : Browser) : Stride b (b, []) := stride_of_outline rfl rfl

theorem Quietly.stride {s : Step} (h : Quietly b s) : Stride b s :=
  stride_of_outline h.sameScene.crumbs h.sameScene.outline

theorem Quiet.stride {c : Browser} (h : Quiet b c) : Stride b c.still :=
  (quietly_still h).stride

/-! ### other rows, another order -/

theorem switchDimension_stride (d : Dimension)
    (h : b.view.level = .subgroups → b.view.origin ≠ some d) : Stride b (b.switchDimension d) := by
  have hm : b.view.Matches (b.switchDimension d).1.view := .of_parts rfl
  exact .stay rfl hm fun hs => hm.sound hs fun hl => .inr (h hl)

theorem turnDimension_stride (forward : Bool) : Stride b (b.turnDimension forward) := by
  refine switchDimension_stride _ fun hl he => ?_
  rw [if_pos hl] at he
  cases ho : b.view.origin with
  | none => rw [ho] at he; cases he
  | some o =>
    rw [ho, Option.some.injEq] at he
    exact Dimension.cycle_ne forward o b.view.dimension he.symm

/-- another order of the same view -/
theorem reorder_stride {v : View} {s : Step} (hc : s.1.crumbs = b.crumbs) (hv : s.1.view = v)
    (hm : b.view.Matches v) (hd : v.dimension = b.view.dimension) : Stride b s := by
  rw [← hv] at hm hd
  exact .stay hc hm fun hs => hm.sound hs fun _ => .inl hd

theorem pressTime_stride : Stride b b.pressTime := by
  unfold pressTime
  split
  · exact reorder_stride rfl rfl (.of_parts rfl) rfl
  · split
    · exact stride_still b
    · rename_i hn
      exact switchDimension_stride _ fun hl he => hn ⟨hl, he⟩

theorem nextSort_stride : Stride b b.nextSort := by
  unfold nextSort
  split
  · exact reorder_stride rfl rfl (.of_parts rfl) rfl
  · exact reorder_stride rfl rfl (.of_parts rfl) rfl
  · exact reorder_stride (reload_samePlace _).crumbs (reload_view _) (.of_parts rfl) rfl
  · exact stride_still b

theorem flipSort_stride : Stride b b.flipSort := by
  unfold flipSort
  split
  · exact reorder_stride rfl rfl (.of_parts rfl) rfl
  · exact reorder_stride rfl rfl (.of_parts rfl) rfl
  · exact reorder_stride (reload_samePlace _).crumbs (reload_view _) (.of_parts rfl) rfl
  · exact stride_still b

theorem setAttachmentsOnly_stride (only : Bool) :
    Stride b ({ b with dialog := none }.setAttachmentsOnly only) := by
  let c := { b with
    dialog := none
    attachmentsOnly := only
    view := { b.view with filter := { b.view.filter with attachmentsOnly := only } } }
  have hm : b.view.Matches c.view := ⟨rfl, rfl, rfl, fun d => by cases d <;> rfl, rfl⟩
  exact reorder_stride (v := c.view) (reload_samePlace c).crumbs (reload_view c) hm rfl

/-! ### the search line -/

theorem clearSearch_outline (b : Browser) : b.clearSearch.1.view.outline = b.view.outline := by
  unfold clearSearch
  dsimp only
  split <;> rfl

theorem cancelSearch_outline (b : Browser) : b.cancelSearch.1.view.outline = b.view.outline := by
  unfold cancelSearch
  dsimp only
  split
  · exact clearSearch_outline _
  · split
    · rfl
    · split <;> rfl

theorem cancelSearch_stride (b : Browser) : Stride b b.cancelSearch :=
  stride_of_outline (cancelSearch_crumbs b) (cancelSearch_outline b)

theorem toggleMode_stride (b : Browser) : Stride b b.toggleMode := by
  unfold toggleMode
  dsimp only
  split
  · split <;> exact stride_of_outline rfl rfl
  · exact stride_still b

theorem commitSearch_stride (b : Browser) : Stride b b.commitSearch := by
  unfold commitSearch
  dsimp only
  split
  · exact cancelSearch_stride b
  · split
    · exact stride_of_outline rfl rfl
    · split <;> exact stride_of_outline rfl rfl
    · split <;> exact stride_of_outline rfl rfl
    · exact stride_of_outline rfl rfl

theorem applyQuery_stride (b : Browser) (query : String) : Stride b (b.applyQuery query) := by
  unfold applyQuery
  dsimp only
  split
  · split
    · exact stride_of_outline (clearSearch_crumbs _) (clearSearch_outline _)
    · exact stride_of_outline rfl rfl
  all_goals exact stride_of_outline rfl rfl

theorem ticked_stride (b : Browser) (query : String) (token : Nat) :
    Stride b (b.ticked query token) := by
  unfold ticked
  split
  · exact applyQuery_stride b _
  · exact stride_still b

theorem openSearch_stride (b : Browser) : Stride b b.openSearch := by
  unfold openSearch
  split <;> exact stride_of_outline rfl rfl

/-! ### down -/

theorem drill_stride (hl : b.view.level.isGrouped = true) : Stride b b.drill := by
  unfold drill
  split
  · exact stride_still b
  · rename_i row hr
    refine .down rfl fun hs => ⟨⟨?_, ?_, ?_⟩, ⟨?_, ?_, fun d hd => ?_⟩⟩
    · exact Filter.isConstrained_apply _ _ _ _
    · intro h; cases h
    · intro h; cases h
    · show b.view.level.leadsTo .list = true
      cases h : b.view.level <;> rw [h] at hl <;> first | rfl | cases hl
    · intro h; cases h
    · refine Filter.holds_of_holds _ _ _ _ ?_
      unfold drillBase
      split
      · rename_i hg
        rw [hs.not_holds hg] at hd
        cases hd
      · exact hd

/-- From rows, a list is entered with the drill as it is, or from the top with none. -/
theorem showAll_stride (hl : b.view.level.isGrouped = true) : Stride b b.showAll := by
  have hlist : b.view.level.leadsTo .list = true := by
    cases h : b.view.level <;> rw [h] at hl <;> first | rfl | cases hl
  have hd : ∀ v : View,
      v = (if b.view.level = .groups then
        { b.view with filter := b.scopeFilter, origin := none, allMessages := true, totals := none }
      else b.view) → b.view.Sound → v.filter.isConstrained = v.origin.isSome ∧
        ∀ d, b.view.filter.holds d = true → v.filter.holds d = true := by
    intro v hv hs
    subst hv
    split
    · rename_i hg
      refine ⟨rfl, fun d hd => ?_⟩
      rw [hs.not_holds hg] at hd
      cases hd
    · exact ⟨hs.origin, fun d => id⟩
  unfold showAll
  dsimp only
  split
  all_goals
    refine .down rfl fun hs => ?_
    obtain ⟨ho, hh⟩ := hd _ rfl hs
    exact ⟨⟨ho, fun h => (by cases h), fun h => (by cases h)⟩,
      ⟨hlist, fun h => (by cases h), hh⟩⟩

/-- Rows within a drill are of another dimension than it. -/
theorem groupWithin_stride (hl : b.view.level = .list) {d : Dimension}
    (hd : b.view.Sound → b.view.origin.isSome = true ∧ b.view.origin ≠ some d) :
    Stride b (b.groupWithin d) := by
  refine .down rfl fun hs => ⟨⟨hs.origin, fun h => ?_, fun _ => hd hs⟩, ⟨?_, fun h => ?_, fun d => id⟩⟩
  · cases h
  · show b.view.level.leadsTo .subgroups = true
    rw [hl]; rfl
  · cases h

theorem groupBy_stride (hl : b.view.level = .list) (hc : b.view.filter.isConstrained = true) :
    Stride b b.groupBy := by
  refine groupWithin_stride hl fun hs => ?_
  have ho : b.view.origin.isSome = true := by rw [← hs.origin]; exact hc
  obtain ⟨o, ho⟩ := Option.isSome_iff_exists.1 ho
  rw [ho]
  exact ⟨rfl, fun he => Dimension.refine_ne o (Option.some.inj he).symm⟩

theorem groupByTime_stride (hl : b.view.level = .list) : Stride b b.groupByTime := by
  unfold groupByTime
  split
  · rename_i h
    rw [Bool.and_eq_true] at h
    refine groupWithin_stride hl fun hs => ⟨by rw [← hs.origin]; exact h.1, ?_⟩
    simpa using h.2
  · exact stride_still b

theorem openMessage_stride {fromThread : Bool}
    (hl : b.view.level = if fromThread then .thread else .list) :
    Stride b (b.openMessage fromThread) := by
  unfold openMessage
  dsimp only
  split
  · exact stride_still b
  · refine .down rfl fun hs => ⟨⟨hs.origin, fun h => ?_, fun h => ?_⟩, ⟨?_, fun _ => ?_, fun d => id⟩⟩
    · cases h
    · cases h
    · show b.view.level.leadsTo .reading = true
      rw [hl]
      cases fromThread <;> rfl
    · show fromThread = true ↔ b.view.level = .thread
      rw [hl]
      cases fromThread <;> decide

theorem openThread_stride (hl : b.view.level = .list ∨ b.view.level = .reading) :
    Stride b b.openThread := by
  unfold openThread
  split
  · exact stride_of_outline rfl rfl
  · refine .down rfl fun hs => ⟨⟨hs.origin, fun h => ?_, fun h => ?_⟩, ⟨?_, fun h => ?_, fun d => id⟩⟩
    · cases h
    · cases h
    · show b.view.level.leadsTo .thread = true
      rcases hl with hl | hl <;> rw [hl] <;> rfl
    · cases h

/-! ### back, and to the top -/

theorem goBack_stride (b : Browser) : Stride b b.goBack := by
  cases hc : b.crumbs with
  | nil =>
    have hg : b.goBack = (b, []) := by unfold goBack; rw [hc]
    rw [hg]
    exact stride_still b
  | cons crumb rest =>
    refine .back crumb (by rw [goBack_crumbs hc, hc]) ?_
    rw [goBack_eq hc]
    split
    · exact outline_resume b crumb rest
    · rw [reload_view]
      exact outline_resume b crumb rest

theorem resetTo_sound (b : Browser) (d : Dimension) : (b.resetTo d).view.Sound where
  origin := rfl
  top _ := rfl
  within h := by cases h

theorem goToTop_stride (b : Browser) : Stride b b.goToTop := .top rfl rfl (resetTo_sound b _)

theorem selectAccount_stride (b : Browser) (choice : Nat) :
    Stride b ({ b with dialog := none }.selectAccount choice) :=
  .top rfl rfl (resetTo_sound _ _)

/-! ### all steps -/

theorem turnMessage_stride (delta : Int) : Stride b (b.turnMessage delta) := by
  unfold turnMessage
  dsimp only
  split
  · exact stride_of_outline rfl rfl
  · split
    · exact stride_of_outline rfl rfl
    · split
      · exact stride_of_outline rfl rfl
      · unfold followReading
        split <;> exact stride_of_outline rfl rfl

theorem KeyStep.stride {s : Step} (h : KeyStep b s) : Stride b s := by
  cases h with
  | still => exact stride_still b
  | quit => exact stride_of_outline rfl rfl
  | shut => exact stride_of_outline rfl rfl
  | leave => exact stride_of_outline rfl rfl
  | ask => exact stride_of_outline rfl rfl
  | save => exact stride_of_outline rfl rfl
  | chooseAccount cursor => exact selectAccount_stride b cursor
  | chooseScope cursor => exact setAttachmentsOnly_stride _
  | chooseFiles cursor chosen =>
    exact ((exportChosen_quietly _ chosen).after (closeDialog_quiet b)).stride
  | cancelLine => exact cancelSearch_stride b
  | commitLine => exact commitSearch_stride b
  | toggleMode => exact toggleMode_stride b
  | typed input => exact (typed_quietly b input).stride
  | find input k => exact (pressInFind_quiet b input k).stride
  | moveCursor delta => exact (moveCursor_quietly b delta).stride
  | pageDown rows => exact (pageDown_quietly b rows).stride
  | toStart => exact (toStart_quietly b).stride
  | toEnd => exact (toEnd_quietly b).stride
  | drill hb hl => exact drill_stride hl
  | showAll hb hl => exact showAll_stride hl
  | groupBy hb hl hc => exact groupBy_stride hl hc
  | groupByTime hb hl => exact groupByTime_stride hl
  | openMessage fromThread hb hl => exact openMessage_stride hl
  | openThread hb hl => exact openThread_stride hl
  | goBack => exact goBack_stride b
  | goToTop => exact goToTop_stride b
  | turnDimension forward => exact turnDimension_stride forward
  | pressTime => exact pressTime_stride
  | nextSort => exact nextSort_stride
  | flipSort => exact flipSort_stride
  | openSearch => exact openSearch_stride b
  | cancelSearch => exact cancelSearch_stride b
  | toggleMark => exact (toggleMark_quiet b).stride
  | markVisible => exact (markVisible_quiet b).stride
  | clearMarks => exact stride_of_outline rfl rfl
  | stageMarked orCurrent => exact (stageMarked_quietly b orCurrent).stride
  | turnMessage delta => exact turnMessage_stride delta
  | openFind => exact stride_of_outline rfl rfl
  | stepHit forward => exact (stepHit_quiet b forward).stride
  | clearFind => exact stride_of_outline rfl rfl
  | openExport => exact (openExport_quietly b).stride
  | askAccount => exact stride_of_outline rfl rfl
  | askScope => exact stride_of_outline rfl rfl
  | askHelp => exact stride_of_outline rfl rfl
  | askQuit => exact stride_of_outline rfl rfl

/-- An answer is dropped, or taken in where the browser is. -/
theorem arrived_stride {c : Browser} {k : LoadKind} {p : Prop} (h : c = b ∨ (p ∧ Filled b k c)) :
    Stride b c.still := by
  rcases h with h | ⟨-, h⟩
  · rw [h]
    exact stride_still b
  · exact stride_of_outline h.crumbs h.outline

/-- **Every step stays at its view, leaves it for one that may lie on it, goes back to the view
below, or goes to the top.** -/
theorem update_stride (b : Browser) (e : Event) : Stride b (b.update e) := by
  cases e with
  | key k => exact (press_keyStep b k).stride
  | resize height => exact (resize_quiet b height).stride
  | rowsLoaded id r => exact arrived_stride (rowsArrived_filled b id r)
  | messagesLoaded id r => exact arrived_stride (messagesArrived_filled b id r)
  | threadLoaded id r => exact arrived_stride (threadArrived_filled b id r)
  | detailLoaded id r => exact arrived_stride (detailArrived_filled b id r)
  | searchLoaded id append r => exact arrived_stride (searchArrived_filled b id append r)
  | searchTick query token => exact ticked_stride b query token
  | flashExpired generation => exact (expireFlash_quiet b generation).stride
  | statsLoaded r => exact (statsArrived_quiet b r).stride
  | accountsLoaded r => exact (accountsArrived_quiet b r).stride
  | manifestBuilt r => exact (manifestBuilt_quietly b r).stride
  | manifestSaved r => exact (manifestSaved_quietly b r).stride
  | exportFinished r => exact (exportFinished_quietly b r).stride

/-! ## the trail -/

def Shaped : View → List Crumb → Prop
  | v, [] => v.Sound ∧ v.level = .groups
  | v, crumb :: rest => v.Sound ∧ v.LiesOn crumb.view ∧ Shaped crumb.view rest

theorem Shaped.sound {v : View} {cs : List Crumb} (h : Shaped v cs) : v.Sound := by
  cases cs with
  | nil => exact h.1
  | cons crumb rest => exact h.1

theorem Shaped.of_matches {v w : View} {cs : List Crumb} (h : Shaped v cs) (hm : v.Matches w)
    (hs : w.Sound) : Shaped w cs := by
  cases cs with
  | nil => exact ⟨hs, hm.level.trans h.2⟩
  | cons crumb rest => exact ⟨hs, hm.liesOn h.2.1, h.2.2⟩

theorem Stride.shaped {s : Step} (h : Stride b s) (hb : Shaped b.view b.crumbs) :
    Shaped s.1.view s.1.crumbs := by
  cases h with
  | stay hc hm hs =>
    rw [hc]
    exact hb.of_matches hm (hs hb.sound)
  | down hc hv =>
    obtain ⟨hs, hl⟩ := hv hb.sound
    rw [hc]
    -- a crumb is the view without what it holds
    have hm : b.view.Matches b.crumb.view := .of_parts rfl
    exact ⟨hs, ⟨hl.level, hl.fromThread, hl.holds⟩, hb.of_matches hm (hb.sound.of_outline rfl)⟩
  | back crumb hc ho =>
    rw [hc] at hb
    exact hb.2.2.of_matches (.of_outline ho) (hb.2.2.sound.of_outline ho)
  | top hc hl hs =>
    rw [hc]
    exact ⟨hs, hl⟩

theorem Reachable.shaped (h : b.Reachable) : Shaped b.view b.crumbs := by
  refine h.induct (P := fun b => Shaped b.view b.crumbs) (fun c => ?_) fun b e hb =>
    (update_stride b e).shaped hb
  exact ⟨⟨rfl, fun _ => rfl, fun h => by cases h⟩, rfl⟩

/-- The level above any other is not the top. -/
theorem not_groups_of_leadsTo {l m : Level} (h : l.leadsTo m = true) : m ≠ .groups := by
  rintro rfl
  cases l <;> cases h

/-- the views from the top to `v`, the crumbs `cs` below it -/
def pathTo (v : View) (cs : List Crumb) : List View := (cs.reverse.map Crumb.view) ++ [v]

theorem pathTo_cons (v : View) (crumb : Crumb) (rest : List Crumb) :
    pathTo v (crumb :: rest) = pathTo crumb.view rest ++ [v] := by
  simp [pathTo]

theorem getLast?_pathTo (v : View) (cs : List Crumb) : (pathTo v cs).getLast? = some v := by
  simp [pathTo]

variable {v : View} {cs : List Crumb}

theorem Shaped.isChain (h : Shaped v cs) :
    (pathTo v cs).IsChain fun below v => v.LiesOn below := by
  induction cs generalizing v with
  | nil => exact List.isChain_singleton v
  | cons crumb rest ih =>
    rw [pathTo_cons, List.isChain_append]
    refine ⟨ih h.2.2, List.isChain_singleton v, fun x hx y hy => ?_⟩
    rw [getLast?_pathTo, Option.mem_some_iff] at hx
    rw [List.head?_cons, Option.mem_some_iff] at hy
    rw [← hx, ← hy]
    exact h.2.1

theorem Shaped.sound_of_mem (h : Shaped v cs) {w : View} (hw : w ∈ pathTo v cs) : w.Sound := by
  induction cs generalizing v with
  | nil =>
    rw [List.mem_singleton.1 hw]
    exact h.1
  | cons crumb rest ih =>
    rw [pathTo_cons] at hw
    rcases List.mem_append.1 hw with hw | hw
    · exact ih h.2.2 hw
    · rw [List.mem_singleton.1 hw]
      exact h.1

/-- The rows of the archive are at the bottom, and nowhere above. -/
theorem Shaped.bottom (h : Shaped v cs) : ∃ bottom above, pathTo v cs = bottom :: above ∧
    bottom.level = .groups ∧ ∀ w ∈ above, w.level ≠ .groups := by
  induction cs generalizing v with
  | nil => exact ⟨v, [], rfl, h.2, fun w hw => by cases hw⟩
  | cons crumb rest ih =>
    obtain ⟨bottom, above, hp, hl, ha⟩ := ih h.2.2
    refine ⟨bottom, above ++ [v], by rw [pathTo_cons, hp]; rfl, hl, fun w hw => ?_⟩
    rcases List.mem_append.1 hw with hw | hw
    · exact ha w hw
    · rw [List.mem_singleton.1 hw]
      exact not_groups_of_leadsTo h.2.1.level

theorem Shaped.groups_iff (h : Shaped v cs) : v.level = .groups ↔ cs = [] := by
  cases cs with
  | nil => exact iff_of_true h.2 rfl
  | cons crumb rest =>
    exact iff_of_false (not_groups_of_leadsTo h.2.1.level) (List.cons_ne_nil _ _)

/-- What a view holds its messages to is held by all views above it. -/
theorem Shaped.pairwise_holds (h : Shaped v cs) :
    (pathTo v cs).Pairwise fun below v =>
      ∀ d, below.filter.holds d = true → v.filter.holds d = true := by
  have ht : Trans (fun u v : View => ∀ d, u.filter.holds d = true → v.filter.holds d = true)
      (fun u v : View => ∀ d, u.filter.holds d = true → v.filter.holds d = true)
      (fun u v : View => ∀ d, u.filter.holds d = true → v.filter.holds d = true) :=
    ⟨fun huv hvw d hd => hvw d (huv d hd)⟩
  exact (h.isChain.imp fun _ _ hl => hl.holds).pairwise

theorem ofAccount_of_mem (h : b.OfAccount) {w : View} (hw : w ∈ b.trail) :
    w.filter.account = b.account := by
  rcases List.mem_append.1 hw with hw | hw
  · obtain ⟨crumb, hc, rfl⟩ := List.mem_map.1 hw
    exact h.crumbs crumb (List.mem_reverse.1 hc)
  · rw [List.mem_singleton.1 hw]
    exact h.view

/-- **The trail begins with the rows of the archive, where nothing is held, and has them nowhere
else.  Each view is one that the view below leads to, and a message is read from the thread exactly
if a thread lies below.  All are of the account that is looked at; a view is constrained exactly if
it was drilled from a dimension; rows within a drill are of another dimension than it; and what one
view holds its messages to, all above it do.** -/
theorem trail_shape (h : b.Reachable) :
    (b.view.level = .groups ↔ b.crumbs = []) ∧
      (∃ bottom above, b.trail = bottom :: above ∧ bottom.level = .groups ∧
        ∀ v ∈ above, v.level ≠ .groups) ∧
      (b.trail.IsChain fun below v => below.level.leadsTo v.level = true ∧
        (v.level = .reading → (v.readingFromThread = true ↔ below.level = .thread))) ∧
      (∀ v ∈ b.trail, v.filter.account = b.account ∧
        (v.filter.isConstrained = true ↔ v.origin.isSome = true) ∧
        (v.level = .subgroups → v.filter.isConstrained = true ∧ v.origin ≠ some v.dimension)) ∧
      b.trail.Pairwise fun below v =>
        ∀ d, below.filter.holds d = true → v.filter.holds d = true := by
  have hs : Shaped b.view b.crumbs := h.shaped
  have ha : b.OfAccount := h.ofAccount
  refine ⟨hs.groups_iff, hs.bottom, ?_, fun v hv => ?_, hs.pairwise_holds⟩
  · exact hs.isChain.imp fun _ _ hl => ⟨hl.level, hl.fromThread⟩
  · have hsound : v.Sound := hs.sound_of_mem hv
    refine ⟨ofAccount_of_mem ha hv, ?_, fun hl => ?_⟩
    · rw [hsound.origin]
    · rw [hsound.origin]
      exact hsound.within hl

/-- Into a sender, and on to the recipients within it: neither step lets go of the sender. -/
theorem trail_shape_of_recipients :
    let b := (session {} [.rowsLoaded 1 (.ok [{ key := "alice@example.com" }]), .key .enter,
      .messagesLoaded 1 (.ok [{ id := 1 }]), .key .tab]).1
    b.trail.map View.level = [.groups, .list, .subgroups] ∧ b.view.dimension = .recipients ∧
      b.view.origin ≠ some b.view.dimension ∧
      b.trail.Pairwise fun below v =>
        ∀ d, below.filter.holds d = true → v.filter.holds d = true := by
  intro b
  have hb : b.Reachable := ⟨{}, _, rfl⟩
  obtain ⟨-, -, -, hv, hp⟩ := trail_shape hb
  have hm : b.view ∈ b.trail := List.mem_append_right _ (List.mem_singleton.2 rfl)
  exact ⟨by decide +kernel, by decide +kernel, ((hv b.view hm).2.2 (by decide +kernel)).2, hp⟩

end Browser
end MailBrowser
