import MailBrowser.Proofs.Browser.Standing
import MailBrowser.Proofs.Browser.Work
import MailBrowser.Proofs.Requests.Sources

/-!
# Where periods and marks come from

A period gets into a filter when a row of periods is entered, and a key is marked while its row is
on screen.  Both are taken with the size of periods that is in force then, which changes under the
rows, and with the way back.

* `Browser.periods`   the periods that the view on screen and those on the way back are held to;
* `Browser.Enters`    a row of periods is entered;
* `Traced`            what a step does to sizes, periods and marks, and the batches it asks for;
* `update_traced`     every step does just that;
* `Came`              a key came with rows that were asked for at some point of a session;
* `exists_came_of_row`, `exists_came_of_mark`   so did all keys on screen, and all that are marked;
* `exists_enters`     every period was entered;
* `Resized`           the size in force has been changed since.
-/

namespace MailBrowser

/-- the filter of a request -/
def Effect.filter? : Effect → Option Filter
  | .loadRows _ _ f _ => f
  | .loadMessages _ f _ | .loadThread _ f _ => some f
  | .search _ q => some q.filter
  | _ => none

namespace Browser

def periods (b : Browser) : List (Option Period) :=
  b.view.filter.period :: b.crumbs.map fun c => c.view.filter.period

/-- what periods and marks come from, and what becomes of them -/
def traces (b : Browser) : Granularity × List (Option Period) × OrdSet String :=
  (b.view.granularity, b.periods, b.selection.keys)

/-- The row under the cursor is entered, and is a period of the size in force. -/
structure Enters (b : Browser) (s : Step) (p : Period) : Prop where
  step : s = b.drill
  dimension : b.view.dimension = .time
  granularity : p.granularity = b.view.granularity
  row : ∃ row, b.view.row? = some row ∧ row.key = p.text

structure Traced (b : Browser) (s : Step) : Prop where
  granularity : s.1.view.granularity = b.view.granularity ∨ s = b.pressTime ∨ s = b.goBack
  periods : ∀ p, some p ∈ s.1.periods → some p ∈ b.periods ∨ b.Enters s p
  marks : ∀ key ∈ s.1.selection.keys,
    key ∈ b.selection.keys ∨ key ∈ b.view.data.rows.map Row.key
  batch : ∀ r, .buildManifest r ∈ s.2 → r = s.1.stageRequest

variable {b c : Browser} {s : Step} {e : Event} {x : Effect}

/-- A step that begins no work asks for no batch. -/
theorem not_batch (hj : jobs s.2 = []) (r : StageRequest) (hr : .buildManifest r ∈ s.2) :
    False := by
  have hm : .buildManifest r ∈ jobs s.2 := List.mem_filter.2 ⟨hr, rfl⟩
  rw [hj] at hm
  cases hm

theorem Traced.fewer (hg : s.1.view.granularity = b.view.granularity)
    (hp : ∀ p, some p ∈ s.1.periods → some p ∈ b.periods)
    (hm : ∀ key ∈ s.1.selection.keys, key ∈ b.selection.keys) (hj : jobs s.2 = []) : Traced b s :=
  ⟨.inl hg, fun p h => .inl (hp p h), fun key h => .inl (hm key h),
    fun r hr => (not_batch hj r hr).elim⟩

theorem traced_of_traces (h : s.1.traces = b.traces) (hj : jobs s.2 = []) : Traced b s := by
  simp only [traces, Prod.mk.injEq] at h
  obtain ⟨hg, hp, hm⟩ := h
  exact .fewer hg (fun p hs => hp ▸ hs) (fun key hs => hm ▸ hs) hj

theorem traces_of_standing (h : c.standing = b.standing) : c.traces = b.traces := by
  simp only [standing, Prod.mk.injEq] at h
  obtain ⟨hg, hf, -, hc, -, -, -, hs⟩ := h
  unfold traces periods
  rw [hg, hf, hc, hs]

theorem SameButQuery.traces (h : SameButQuery b c) : c.traces = b.traces := by
  obtain ⟨query, h⟩ := h
  exact traces_of_standing (b := b.withQuery query) h

theorem traced_of_standing (h : s.1.standing = b.standing) (hj : jobs s.2 = []) : Traced b s :=
  traced_of_traces (traces_of_standing h) hj

theorem SameButQuery.traced (h : SameButQuery b s.1) (hj : jobs s.2 = []) : Traced b s :=
  traced_of_traces h.traces hj

theorem not_mem_retag (s : Selection) (d : Dimension) (key : String) :
    key ∉ (s.retag d).keys := OrdSet.not_mem_empty key

theorem not_mem_clear (s : Selection) (key : String) : key ∉ s.clear.keys :=
  OrdSet.not_mem_empty key

/-! ## from view to view -/

theorem period_drillBase {p : Period} (h : b.drillBase.period = some p) : some p ∈ b.periods := by
  unfold drillBase at h
  split at h
  · cases h
  · exact h ▸ List.mem_cons_self

/-- Only a row of periods brings a period, and no period is without a text. -/
theorem period_of_apply {f : Filter} {d : Dimension} {key : String} {g : Granularity} {p : Period}
    (h : (f.apply d key g).period = some p) :
    f.period = some p ∨ (d = .time ∧ p = ⟨key, g⟩) := by
  rw [Filter.period_apply] at h
  split at h
  · rename_i hd
    split at h
    · cases h
    · cases h
      exact .inr ⟨hd, rfl⟩
  · exact .inl h

theorem drill_traced : Traced b b.drill := by
  have hj := (drill_plain b).jobs
  cases hr : b.view.row? with
  | none =>
    have hd : b.drill = b.still := by
      unfold drill
      rw [hr]
      rfl
    rw [hd]
    exact traced_of_traces rfl rfl
  | some row =>
    refine ⟨.inl ?_, fun p hp => ?_, fun key hk => .inl ?_, fun r h => (not_batch hj r h).elim⟩
    · unfold drill
      rw [hr]
      rfl
    · have hd : b.drill.1.periods =
          (b.drillBase.apply b.view.dimension row.key b.view.granularity).period :: b.periods := by
        unfold drill
        rw [hr]
        rfl
      rw [hd] at hp
      rcases List.mem_cons.1 hp with hp | hp
      · rcases period_of_apply hp.symm with hp | ⟨ht, rfl⟩
        · exact .inl (period_drillBase hp)
        · exact .inr ⟨rfl, ht, rfl, row, hr, rfl⟩
      · exact .inl hp
    · unfold drill at hk
      rw [hr] at hk
      change key ∈ (if b.view.level = .groups then b.selection.clear else b.selection).keys at hk
      split at hk
      · exact absurd hk (not_mem_clear _ key)
      · exact hk

/-- a view with the period of the one that is left, or with none -/
theorem mem_periods_down {p : Period} {q : Option Period} (hq : q = none ∨ q = b.view.filter.period)
    (h : some p ∈ q :: b.periods) : some p ∈ b.periods := by
  rcases List.mem_cons.1 h with h | h
  · rcases hq with hq | hq
    · rw [hq] at h
      cases h
    · rw [h, hq]
      exact List.mem_cons_self
  · exact h

theorem showAll_traced : Traced b b.showAll := by
  have hj := (showAll_plain b).jobs
  have hf : (if b.view.level = .groups then
      { b.view with filter := b.scopeFilter, origin := none, allMessages := true, totals := none }
      else b.view).filter.period = none ∨ (if b.view.level = .groups then
      { b.view with filter := b.scopeFilter, origin := none, allMessages := true, totals := none }
      else b.view).filter.period = b.view.filter.period := by
    split
    · exact .inl rfl
    · exact .inr rfl
  refine .fewer ?_ (fun p h => ?_) (fun key h => ?_) hj
  · unfold showAll
    dsimp only
    split <;> split <;> rfl
  · refine mem_periods_down hf ?_
    unfold showAll at h
    dsimp only at h
    split at h <;> exact h
  · unfold showAll at h
    dsimp only at h
    split at h <;> exact h

theorem groupWithin_traced (d : Dimension) : Traced b (b.groupWithin d) :=
  .fewer rfl (fun _ h => mem_periods_down (.inr rfl) h)
    (fun key h => absurd h (not_mem_retag _ _ key)) rfl

theorem groupByTime_traced : Traced b b.groupByTime := by
  unfold groupByTime
  split
  · exact groupWithin_traced .time
  · exact traced_of_traces rfl rfl

theorem openMessage_traced (fromThread : Bool) : Traced b (b.openMessage fromThread) := by
  unfold openMessage
  dsimp only
  split
  · exact traced_of_traces rfl rfl
  · exact .fewer rfl (fun _ h => mem_periods_down (.inr rfl) h) (fun _ h => h) rfl

theorem openThread_traced : Traced b b.openThread := by
  unfold openThread
  split
  · exact traced_of_traces rfl rfl
  · exact .fewer rfl (fun _ h => mem_periods_down (.inr rfl) h) (fun _ h => h) rfl

theorem mem_retagFor {s : Selection} {v : View} {key : String} (h : key ∈ (retagFor s v).keys) :
    key ∈ s.keys := by
  unfold retagFor at h
  split at h
  · exact absurd h (not_mem_retag _ _ key)
  · exact h

theorem goBack_traced : Traced b b.goBack := by
  cases hc : b.crumbs with
  | nil =>
    unfold goBack
    rw [hc]
    exact traced_of_traces rfl rfl
  | cons crumb rest =>
    have ht : b.goBack.1.traces = (b.resume crumb rest).traces := by
      rw [goBack_eq hc]
      split
      · rfl
      · exact traces_of_standing (reload_standing _)
    simp only [traces, Prod.mk.injEq] at ht
    obtain ⟨-, hp, hm⟩ := ht
    have hf : (b.resume crumb rest).view.filter = crumb.view.filter :=
      View.of_outline View.filter (fun _ => rfl) (outline_resume b crumb rest)
    refine ⟨.inr (.inr rfl), fun p h => .inl ?_, fun key h => .inl ?_,
      fun r h => (not_batch (goBack_plain b).jobs r h).elim⟩
    · rw [hp] at h
      unfold periods at h ⊢
      rw [hf] at h
      rw [hc]
      exact List.mem_cons_of_mem _ h
    · rw [hm] at h
      exact mem_retagFor h

/-- At the top nothing is held to a period, and nothing is marked. -/
theorem top_traced (hg : s.1.view.granularity = b.view.granularity) (hp : s.1.periods = [none])
    (hm : s.1.selection.keys = .empty) (hj : jobs s.2 = []) : Traced b s := by
  refine .fewer hg (fun p h => ?_) (fun key h => ?_) hj
  · rw [hp] at h
    cases List.mem_singleton.1 h
  · rw [hm] at h
    exact absurd h (OrdSet.not_mem_empty key)

theorem setAttachmentsOnly_traces (b : Browser) (only : Bool) :
    (b.setAttachmentsOnly only).1.traces = b.traces := by
  unfold setAttachmentsOnly
  exact (traces_of_standing (reload_standing _)).trans rfl

theorem switchDimension_traced (d : Dimension) : Traced b (b.switchDimension d) :=
  .fewer rfl (fun _ h => h) (fun key h => absurd h (not_mem_retag _ _ key)) rfl

theorem pressTime_traced : Traced b b.pressTime := by
  have hs := switchDimension_traced (b := b) .time
  refine ⟨.inr (.inl rfl), fun p h => ?_, fun key h => ?_,
    fun r h => (not_batch (pressTime_plain b).jobs r h).elim⟩
  · unfold pressTime at h ⊢
    split at h
    · exact .inl h
    · split at h <;> exact .inl h
  · unfold pressTime at h
    split at h
    · exact .inl h
    · split at h
      · exact .inl h
      · exact hs.marks key h

/-! ## marks and batches -/

theorem mem_under {s : Selection} {d : Dimension} {key : String} (h : key ∈ (s.under d).keys) :
    key ∈ s.keys := by
  unfold Selection.under at h
  split at h
  · exact h
  · exact absurd h (not_mem_retag _ _ key)

/-- Marks are only changed by the rows on screen. -/
structure Marks (b c : Browser) : Prop where
  view : c.view = b.view
  crumbs : c.crumbs = b.crumbs
  keys : ∀ key ∈ c.selection.keys, key ∈ b.selection.keys ∨ key ∈ b.view.data.rows.map Row.key

theorem Marks.traced (h : Marks b s.1)
    (hb : ∀ r, .buildManifest r ∈ s.2 → r = s.1.stageRequest) : Traced b s := by
  refine ⟨.inl (by rw [h.view]), fun p hp => .inl ?_, h.keys, hb⟩
  unfold periods at hp ⊢
  rwa [h.view, h.crumbs] at hp

theorem toggleMark_marks (b : Browser) : Marks b b.toggleMark := by
  have hrow : ∀ row, b.view.row? = some row → ∀ key,
      key ∈ (b.selection.toggleKey b.view.dimension row.key).keys →
      key ∈ b.selection.keys ∨ key ∈ b.view.data.rows.map Row.key := by
    intro row hr key hk
    rcases OrdSet.mem_toggle hk with hk | rfl
    · exact .inl (mem_under hk)
    · exact .inr (List.mem_map_of_mem (List.mem_of_getElem? hr))
  unfold toggleMark
  split
  · split
    · rename_i hr
      exact ⟨rfl, rfl, hrow _ hr⟩
    · exact ⟨rfl, rfl, fun _ h => .inl h⟩
  · split
    · rename_i hr
      exact ⟨rfl, rfl, hrow _ hr⟩
    · exact ⟨rfl, rfl, fun _ h => .inl h⟩
  · split <;> exact ⟨rfl, rfl, fun _ h => .inl h⟩
  · exact ⟨rfl, rfl, fun _ h => .inl h⟩

theorem markVisible_marks (b : Browser) : Marks b b.markVisible := by
  have hrows : ∀ key ∈ (b.selection.addKeys b.view.dimension
      ((b.visible b.view.data.rows).map Row.key)).keys,
      key ∈ b.selection.keys ∨ key ∈ b.view.data.rows.map Row.key := by
    intro key hk
    rcases OrdSet.mem_insertAll.1 hk with hk | hk
    · exact .inl (mem_under hk)
    · obtain ⟨row, hr, rfl⟩ := List.mem_map.1 hk
      exact .inr (List.mem_map_of_mem (List.mem_of_mem_drop (List.mem_of_mem_take hr)))
  unfold markVisible
  split
  · exact ⟨rfl, rfl, hrows⟩
  · exact ⟨rfl, rfl, hrows⟩
  · exact ⟨rfl, rfl, fun _ h => .inl h⟩
  · exact ⟨rfl, rfl, fun _ h => .inl h⟩

theorem stageMarked_traced (orCurrent : Bool) : Traced b (b.stageMarked orCurrent) := by
  have hm : Marks b (if orCurrent && b.selection.isEmpty then b.toggleMark else b) := by
    split
    · exact toggleMark_marks b
    · exact ⟨rfl, rfl, fun _ h => .inl h⟩
  unfold stageMarked
  dsimp only
  generalize (if orCurrent && b.selection.isEmpty then b.toggleMark else b) = d at hm
  split
  · exact Marks.traced (s := d.notify nothingMarked) ⟨hm.view, hm.crumbs, hm.keys⟩
      fun r hr => nomatch List.mem_singleton.1 hr
  · refine Marks.traced ⟨hm.view, hm.crumbs, hm.keys⟩ fun r hr => ?_
    exact Effect.buildManifest.inj (List.mem_singleton.1 hr)

theorem openExport_traced : Traced b b.openExport := by
  unfold openExport
  split <;> exact traced_of_traces rfl rfl

theorem exportChosen_traced (chosen : OrdSet Nat) :
    Traced b ({ b with dialog := none }.exportChosen chosen) := by
  unfold exportChosen
  split
  · exact traced_of_traces rfl rfl
  · dsimp only
    split
    · exact traced_of_traces rfl rfl
    · refine Marks.traced ⟨rfl, rfl, fun _ h => .inl h⟩ fun r hr => ?_
      cases List.mem_singleton.1 hr

/-! ## all steps -/

theorem KeyStep.traced (h : KeyStep b s) : Traced b s := by
  cases h with
  | save =>
    exact Marks.traced ⟨rfl, rfl, fun _ h => .inl h⟩ fun _ hr => nomatch List.mem_singleton.1 hr
  | chooseAccount => exact top_traced rfl rfl rfl rfl
  | chooseScope cursor =>
    exact traced_of_traces (setAttachmentsOnly_traces _ _) (setAttachmentsOnly_plain _ _).jobs
  | chooseFiles cursor chosen => exact exportChosen_traced chosen
  | cancelLine => exact (cancelSearch_sameButQuery b).traced (cancelSearch_plain b).jobs
  | commitLine => exact (commitSearch_sameButQuery b).traced (commitSearch_plain b).jobs
  | toggleMode => exact (toggleMode_sameButQuery b).traced (toggleMode_plain b).jobs
  | find input k => exact traced_of_standing (pressInFind_standing b input k) rfl
  | moveCursor delta =>
    exact traced_of_standing (moveCursor_standing b delta) (moveCursor_plain b delta).jobs
  | pageDown rows =>
    exact traced_of_standing (pageDown_standing b rows) (pageDown_plain b rows).jobs
  | toStart => exact traced_of_standing (toStart_standing b) (toStart_plain b).jobs
  | toEnd => exact traced_of_standing (toEnd_standing b) (toEnd_plain b).jobs
  | drill => exact drill_traced
  | showAll => exact showAll_traced
  | groupBy => exact groupWithin_traced _
  | groupByTime => exact groupByTime_traced
  | openMessage fromThread => exact openMessage_traced fromThread
  | openThread => exact openThread_traced
  | goBack => exact goBack_traced
  | goToTop => exact top_traced rfl rfl rfl rfl
  | turnDimension => exact switchDimension_traced _
  | pressTime => exact pressTime_traced
  | nextSort => exact traced_of_standing (nextSort_standing b) (nextSort_plain b).jobs
  | flipSort => exact traced_of_standing (flipSort_standing b) (flipSort_plain b).jobs
  | openSearch => exact traced_of_standing (openSearch_standing b) (openSearch_plain b).jobs
  | cancelSearch => exact (cancelSearch_sameButQuery b).traced (cancelSearch_plain b).jobs
  | toggleMark => exact (toggleMark_marks b).traced fun _ hr => nomatch hr
  | markVisible => exact (markVisible_marks b).traced fun _ hr => nomatch hr
  | clearMarks =>
    exact .fewer rfl (fun _ h => h) (fun key h => absurd h (not_mem_clear _ key)) rfl
  | stageMarked orCurrent => exact stageMarked_traced orCurrent
  | turnMessage delta =>
    exact traced_of_standing (turnMessage_standing b delta) (turnMessage_plain b delta).jobs
  | stepHit forward => exact traced_of_standing (stepHit_standing b forward) rfl
  | openExport => exact openExport_traced
  | _ => exact traced_of_traces rfl rfl

/-- **The size in force changes only under rows of periods and on the way back.  No period is held
to but the one that is entered, no key is marked but those on screen, and no batch is asked for but
that of the marks.** -/
theorem update_traced (b : Browser) (e : Event) : Traced b (b.update e) := by
  cases hn : e.isNews with
  | true =>
    obtain ⟨c, hc, hs, -⟩ := update_news b hn
    rw [hc]
    exact traced_of_standing hs rfl
  | false =>
    cases e with
    | key k => exact (press_keyStep b k).traced
    | searchTick query token =>
      exact (ticked_sameButQuery b query token).traced (ticked_aside query token).jobs
    | statsLoaded result => cases result <;> exact traced_of_traces rfl rfl
    | manifestBuilt result =>
      show Traced b (b.manifestBuilt result)
      unfold manifestBuilt
      dsimp only
      split <;> exact traced_of_traces rfl rfl
    | manifestSaved result =>
      show Traced b (b.manifestSaved result)
      unfold manifestSaved
      dsimp only
      split
      · exact .fewer rfl (fun _ h => h) (fun key h => absurd h (not_mem_clear _ key)) rfl
      · exact traced_of_traces rfl rfl
    | exportFinished result =>
      show Traced b (b.exportFinished result)
      unfold exportFinished
      dsimp only
      split <;> exact traced_of_traces rfl rfl
    | _ => cases hn

/-! ## requests -/

/-- A request has the period of the view, or none. -/
theorem Ending.period (h : Ending b s) (hx : x ∈ s.2) {f : Filter} (hf : x.filter? = some f)
    {p : Period} (hp : f.period = some p) : some p ∈ s.1.periods := by
  have rows (hx : x ∈ b.loadRows.2) : some p ∈ b.periods := by
    rw [loadRows_asks] at hx
    rw [List.mem_singleton.1 hx] at hf
    change (if b.view.level = .subgroups then some b.view.filter else none) = some f at hf
    split at hf
    · cases hf
      exact hp ▸ List.mem_cons_self
    · cases hf
  cases h with
  | nothing => cases hx
  | notice text =>
    rw [List.mem_singleton.1 hx] at hf
    cases hf
  | other y hy hn =>
    rw [List.mem_singleton.1 hx] at hf
    cases y with
    | loadRows => cases hy
    | loadMessages => cases hy
    | loadThread => cases hy
    | search => cases hy
    | _ => cases hf
  | rows => exact rows hx
  | rowsAndStats =>
    rcases List.mem_append.1 hx with hx | hx
    · exact rows hx
    · rw [List.mem_singleton.1 hx] at hf
      cases hf
  | messages =>
    rw [List.mem_singleton.1 hx] at hf
    cases hf
    exact hp ▸ List.mem_cons_self
  | thread =>
    rw [List.mem_singleton.1 hx] at hf
    cases hf
    cases hp
  | detail m hm =>
    rw [List.mem_singleton.1 hx] at hf
    cases hf
  | search offset append =>
    rw [List.mem_singleton.1 hx] at hf
    cases hf
    cases append <;> exact hp ▸ List.mem_cons_self

/-- Rows are asked for with the size in force. -/
theorem Ending.size (h : Ending b s) {id : Nat} {d : Dimension} {f : Option Filter}
    {o : GroupOptions} (hx : .loadRows id d f o ∈ s.2) : o.granularity = s.1.view.granularity := by
  have rows (hx : .loadRows id d f o ∈ b.loadRows.2) : o.granularity = b.view.granularity := by
    rw [loadRows_asks] at hx
    cases List.mem_singleton.1 hx
    rfl
  cases h with
  | nothing => cases hx
  | other y hy hn =>
    cases List.mem_singleton.1 hx
    cases hy
  | rows => exact rows hx
  | rowsAndStats =>
    rcases List.mem_append.1 hx with hx | hx
    · exact rows hx
    · cases List.mem_singleton.1 hx
  | notice | messages | thread | detail | search => cases List.mem_singleton.1 hx

variable {cfg : Config} {es : List Event}

theorem Made.period (h : Made cfg es x) {f : Filter} (hf : x.filter? = some f) {p : Period}
    (hp : f.period = some p) : some p ∈ (session cfg es).1.periods := by
  cases h with
  | launch hx =>
    rcases List.mem_cons.1 hx with rfl | hx
    · cases hf
    · rcases List.mem_cons.1 hx with rfl | hx
      · cases hf
      · exact Ending.rows.period (b := new cfg.tuning) hx hf hp
  | step hx =>
    obtain ⟨d, hd, -⟩ := update_ends (session cfg _).1 _
    rw [session_concat]
    exact hd.period hx hf hp

theorem Made.size {id : Nat} {d : Dimension} {f : Option Filter} {o : GroupOptions}
    (h : Made cfg es (.loadRows id d f o)) :
    o.granularity = (session cfg es).1.view.granularity := by
  cases h with
  | launch hx =>
    rcases List.mem_cons.1 hx with hx | hx
    · cases hx
    · rcases List.mem_cons.1 hx with hx | hx
      · cases hx
      · exact Ending.rows.size (b := new cfg.tuning) hx
  | step hx =>
    obtain ⟨d, hd, -⟩ := update_ends (session cfg _).1 _
    rw [session_concat]
    exact hd.size hx

theorem Made.batch {r : StageRequest} (h : Made cfg es (.buildManifest r)) :
    r = (session cfg es).1.stageRequest := by
  cases h with
  | launch hx =>
    have hx : .buildManifest r ∈ jobs (Browser.launch cfg).2 := List.mem_filter.2 ⟨hx, rfl⟩
    cases hx
  | step hx =>
    rw [session_concat]
    exact (update_traced _ _).batch r hx

theorem Made.nil (h : Made cfg [] x) : x ∈ (Browser.launch cfg).2 := by
  generalize hes : ([] : List Event) = es at h
  cases h with
  | launch hx => exact hx
  | step hx => simp at hes

theorem Made.last (h : Made cfg (es ++ [e]) x) : x ∈ ((session cfg es).1.update e).2 := by
  generalize hfs : es ++ [e] = fs at h
  cases h with
  | launch hx => simp at hfs
  | step hx =>
    obtain ⟨rfl, he⟩ := List.append_inj' hfs rfl
    cases he
    exact hx

/-- What a session has asked for was asked for by one of its steps. -/
theorem mem_effects_iff : x ∈ (session cfg es).2 ↔ ∃ asked, asked <+: es ∧ Made cfg asked x := by
  induction es using List.reverseRecOn with
  | nil =>
    have hs : (session cfg []).2 = (launch cfg).2 := List.append_nil _
    rw [hs]
    constructor
    · exact fun h => ⟨[], List.prefix_refl _, .launch h⟩
    · rintro ⟨asked, hp, hm⟩
      rw [List.prefix_nil.1 hp] at hm
      exact hm.nil
  | append_singleton es e ih =>
    rw [session_effects, List.mem_append, ih]
    constructor
    · rintro (⟨asked, hp, hm⟩ | h)
      · exact ⟨asked, hp.trans (List.prefix_append _ _), hm⟩
      · exact ⟨es ++ [e], List.prefix_refl _, .step h⟩
    · rintro ⟨asked, hp, hm⟩
      rcases List.prefix_concat_iff.1 hp with rfl | hp
      · exact .inr hm.last
      · exact .inl ⟨asked, hp, hm⟩

/-! ## keys -/

/-- The key came with rows that were shown, after they had been asked for at some point. -/
def Came (c : Config) (asked es : List Event) (d : Dimension) (key : String) : Prop :=
  ∃ before e after id f o, es = before ++ e :: after ∧ asked <+: before ∧
    Made c asked (.loadRows id d f o) ∧ Outcome (.loadRows id d f o) e ∧
    (session c before).1.Shows e ∧ key ∈ e.rows.map Row.key

variable {asked : List Event} {d : Dimension} {key : String}

theorem Came.append (h : Came cfg asked es d key) (fs : List Event) :
    Came cfg asked (es ++ fs) d key := by
  obtain ⟨before, e, after, id, f, o, rfl, hrest⟩ := h
  exact ⟨before, e, after ++ fs, id, f, o, by simp, hrest⟩

/-- Rows that are shown were asked for: the ledger has the number of a request. -/
theorem exists_made_of_shows (hs : (session cfg es).1.Shows e) (hne : e.rows ≠ []) :
    ∃ asked id d f o, asked <+: es ∧ Made cfg asked (.loadRows id d f o) ∧
      Outcome (.loadRows id d f o) e := by
  cases e with
  | rowsLoaded id r =>
    cases r with
    | error q => exact absurd rfl hne
    | ok rows =>
      have hone : 1 ≤ (session cfg es).1.ledger.current .rows :=
        current_le_run (launch cfg).1 es .rows
      have hn : id ∈ numbers .rows (session cfg es).2 := by
        rw [session_numbers, hs.1]
        exact List.mem_range'_1.2 ⟨hone, by omega⟩
      obtain ⟨⟨k, n⟩, hstamp, hk⟩ := List.mem_filterMap.1 hn
      obtain ⟨x, hx, hxs⟩ := List.mem_filterMap.1 hstamp
      obtain ⟨asked, hp, hm⟩ := mem_effects_iff.1 hx
      dsimp only at hk
      split at hk
      · rename_i hrows
        cases hk
        cases hrows
        cases x with
        | loadRows id' d f o =>
          cases hxs
          exact ⟨asked, _, d, f, o, hp, hm, .rows ..⟩
        | _ => cases hxs
      · cases hk
  | _ => exact absurd rfl hne

theorem exists_came_of_row (c : Config) (es : List Event) {row : Row}
    (h : row ∈ (session c es).1.view.data.rows) : ∃ asked d, Came c asked es d row.key := by
  obtain ⟨before, e, after, rfl, hs, hm, -⟩ := (session_holds c es).rows row h
  obtain ⟨asked, id, d, f, o, hp, hmade, ho⟩ := exists_made_of_shows hs (List.ne_nil_of_mem hm)
  exact ⟨asked, d, before, e, after, id, f, o, rfl, hp, hmade, ho, hs, List.mem_map_of_mem hm⟩

theorem exists_came_of_mark (c : Config) (es : List Event) {key : String}
    (h : key ∈ (session c es).1.selection.keys) : ∃ asked d, Came c asked es d key := by
  induction es using List.reverseRecOn with
  | nil => exact absurd h (OrdSet.not_mem_empty key)
  | append_singleton es e ih =>
    rw [session_concat] at h
    rcases (update_traced (session c es).1 e).marks key h with h | h
    · obtain ⟨asked, d, hc⟩ := ih h
      exact ⟨asked, d, hc.append [e]⟩
    · obtain ⟨row, hr, rfl⟩ := List.mem_map.1 h
      obtain ⟨asked, d, hc⟩ := exists_came_of_row c es hr
      exact ⟨asked, d, hc.append [e]⟩

/-! ## periods -/

theorem exists_enters (c : Config) (es : List Event) {p : Period}
    (h : some p ∈ (session c es).1.periods) : ∃ before e after, es = before ++ e :: after ∧
      (session c before).1.Enters ((session c before).1.update e) p := by
  induction es using List.reverseRecOn with
  | nil => cases List.mem_singleton.1 h
  | append_singleton es e ih =>
    rw [session_concat] at h
    rcases (update_traced (session c es).1 e).periods p h with h | h
    · obtain ⟨before, f, after, rfl, hp⟩ := ih h
      exact ⟨before, f, after ++ [e], by simp, hp⟩
    · exact ⟨es, e, [], rfl, h⟩

/-! ## sizes -/

/-- Since then the size in force has been changed, in its view or by going back to another. -/
def Resized (c : Config) (asked es : List Event) : Prop :=
  ∃ before e after, es = before ++ e :: after ∧ asked <+: before ∧
    ((session c before).1.update e = (session c before).1.pressTime ∨
      (session c before).1.update e = (session c before).1.goBack) ∧
    ((session c before).1.update e).1.view.granularity ≠ (session c before).1.view.granularity

theorem eq_or_resized {c : Config} {asked es : List Event} (h : asked <+: es) :
    (session c es).1.view.granularity = (session c asked).1.view.granularity ∨
      Resized c asked es := by
  induction es using List.reverseRecOn with
  | nil =>
    rw [List.prefix_nil.1 h]
    exact .inl rfl
  | append_singleton es e ih =>
    rcases List.prefix_concat_iff.1 h with rfl | h
    · exact .inl rfl
    · rcases ih h with hsame | ⟨before, f, after, rfl, hrest⟩
      · rw [session_concat]
        by_cases hk : ((session c es).1.update e).1.view.granularity =
            (session c es).1.view.granularity
        · exact .inl (hk.trans hsame)
        · have hg := ((update_traced (session c es).1 e).granularity).resolve_left hk
          exact .inr ⟨es, e, [], rfl, h, hg, hk⟩
      · exact .inr ⟨before, f, after ++ [e], by simp, hrest⟩

end Browser
end MailBrowser
