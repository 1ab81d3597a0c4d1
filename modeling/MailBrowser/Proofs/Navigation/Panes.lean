import MailBrowser.Proofs.Navigation.Sight

/-!
# What steps do to windows

A window of a list that is on screen has its cursor on its page.  Steps reveal the cursor where they
move it, put a new window over a list, or leave a window alone with its list.  Going back and leaving
a search bring a window that has been kept.

* `Window.Shows`     the cursor is on the page of the window;
* `View.Framed`      so it is in the list on screen, if anything is listed;
* `View.pane`        all that this depends on: level, length of the list, windows;
* `Glides`           a view after which a cursor is on its page if it was before;
* `Slide`            such a step, with what it leaves on the way back and behind a search;
* `Pan`              all that keys and ticks do to windows; `KeyStep.pan`, `ticked_pan`;
* `Passage`          all that events do: these, a page more of a search, a new size;
                     `update_passage`.
-/

namespace MailBrowser

/-! ## windows -/

def Window.Shows (w : Window) (page : Nat) : Prop :=
  w.scroll ≤ w.cursor ∧ w.cursor < w.scroll + page

instance (w : Window) (page : Nat) : Decidable (w.Shows page) :=
  inferInstanceAs (Decidable (_ ∧ _))

theorem Window.Shows.mono {w : Window} {page size : Nat} (h : w.Shows page) (hp : page ≤ size) :
    w.Shows size :=
  ⟨h.1, Nat.lt_of_lt_of_le h.2 (Nat.add_le_add_left hp _)⟩

theorem Window.shows_reveal (w : Window) {page : Nat} (hp : 0 < page) :
    (w.reveal page).Shows page := by
  refine ⟨windowStart_le _ _ _, ?_⟩
  have h := lt_windowStart_add w.cursor w.scroll page
  rwa [Nat.max_eq_left hp] at h

theorem Window.shows_moveTo (w : Window) (row : Nat) {page : Nat} (hp : 0 < page) :
    (w.moveTo row page).Shows page :=
  shows_reveal _ hp

theorem Window.shows_new {page : Nat} (hp : 0 < page) : ({} : Window).Shows page :=
  ⟨Nat.le_refl _, Nat.lt_of_lt_of_le hp (Nat.le_add_left _ _)⟩

/-- the window of a list that is kept behind a search -/
def ListSnapshot.window (s : ListSnapshot) : Window := ⟨s.cursor, s.scroll⟩

/-! ## views -/

structure View.Framed (v : View) (page : Nat) : Prop where
  list : v.level.isListed = true → v.listLength ≠ 0 → v.window.Shows page
  thread : v.level = .thread → v.listLength ≠ 0 → v.threadWindow.Shows page

def View.pane (v : View) : Level × Nat × Window × Window :=
  (v.level, v.listLength, v.window, v.threadWindow)

namespace View

variable {v w : View} {page : Nat}

theorem framed_def : v.Framed page ↔
    (v.level.isListed = true → v.listLength ≠ 0 → v.window.Shows page) ∧
      (v.level = .thread → v.listLength ≠ 0 → v.threadWindow.Shows page) :=
  ⟨fun h => ⟨h.list, h.thread⟩, fun h => ⟨h.1, h.2⟩⟩

instance (v : View) (page : Nat) : Decidable (v.Framed page) := decidable_of_iff' _ framed_def

theorem Framed.congr (h : v.Framed page) (hp : w.pane = v.pane) : w.Framed page := by
  simp only [pane, Prod.mk.injEq] at hp
  obtain ⟨hl, hn, hw, ht⟩ := hp
  refine ⟨?_, ?_⟩
  · rw [hl, hn, hw]
    exact h.list
  · rw [hl, hn, ht]
    exact h.thread

theorem framed_of_empty (h : w.listLength = 0) : w.Framed page :=
  ⟨fun _ hn => absurd h hn, fun _ hn => absurd h hn⟩

theorem framed_of_reading (h : w.level = .reading) : w.Framed page :=
  framed_of_empty (by unfold listLength; rw [h])

theorem framed_of_listed (hl : w.level.isListed = true) (h : w.window.Shows page) :
    w.Framed page :=
  ⟨fun _ _ => h, fun ht => by rw [ht] at hl; cases hl⟩

theorem framed_of_thread (hl : w.level = .thread) (h : w.threadWindow.Shows page) :
    w.Framed page :=
  ⟨fun hm => (by rw [hl] at hm; cases hm), fun _ _ => h⟩

theorem framed_of_shows (h : w.window.Shows page) (ht : w.threadWindow.Shows page) :
    w.Framed page :=
  ⟨fun _ _ => h, fun _ _ => ht⟩

end View

/-- Windows are as they were or reveal their cursors, and what is on screen stays in its frame. -/
structure Glides (v w : View) (page : Nat) : Prop where
  window : w.window = v.window ∨ w.window.Shows page
  threadWindow : w.threadWindow = v.threadWindow ∨ w.threadWindow.Shows page
  framed : v.Framed page → w.Framed page

namespace Glides

variable {v w : View} {page : Nat}

theorem of_pane (h : w.pane = v.pane) : Glides v w page where
  window := .inl (congrArg (·.2.2.1) h)
  threadWindow := .inl (congrArg (·.2.2.2) h)
  framed hv := hv.congr h

/-- another list on screen, or none, with a window that reveals its cursor -/
theorem listed (hw : w.window.Shows page) (ht : w.threadWindow = v.threadWindow)
    (hl : w.level.isListed = true) : Glides v w page :=
  ⟨.inr hw, .inl ht, fun _ => View.framed_of_listed hl hw⟩

theorem thread (hw : w.window = v.window) (ht : w.threadWindow.Shows page)
    (hl : w.level = .thread) : Glides v w page :=
  ⟨.inl hw, .inr ht, fun _ => View.framed_of_thread hl ht⟩

theorem reading (hw : w.window = v.window ∨ w.window.Shows page)
    (ht : w.threadWindow = v.threadWindow ∨ w.threadWindow.Shows page)
    (hl : w.level = .reading) : Glides v w page :=
  ⟨hw, ht, fun _ => View.framed_of_reading hl⟩

end Glides

namespace Browser
open Text

/-! ## steps -/

/-- all that the windows of a browser depend on -/
def panes (b : Browser) : Nat × (Level × Nat × Window × Window) × List Crumb :=
  (b.pageSize, b.view.pane, b.crumbs)

structure Slide (b c : Browser) : Prop where
  page : c.pageSize = b.pageSize
  view : Glides b.view c.view b.pageSize
  crumbs : ∀ crumb ∈ c.crumbs, crumb ∈ b.crumbs ∨ crumb = b.crumb
  kept : ∀ s, c.search.snapshot = some s →
    b.search.snapshot = some s ∨ s.window = b.view.window

inductive Pan (b : Browser) : Step → Prop where
  | slide {s : Step} (h : Slide b s.1) : Pan b s
  | back (crumb : Crumb) (rest : List Crumb) (hc : b.crumbs = crumb :: rest) : Pan b b.goBack
  /-- The list that was kept is shown again. -/
  | retake {s : Step} (kept : ListSnapshot) (hl : b.view.level = .list)
      (hk : b.search.snapshot = some kept) (hs : s = b.cancelSearch ∨ s = b.applyQuery "") : Pan b s

variable {b c : Browser}

namespace Slide

/-- The windows are left alone, and the list that was kept may be given up. -/
theorem stay (h : c.panes = b.panes)
    (hs : c.search.snapshot = none ∨ c.search.snapshot = b.search.snapshot) : Slide b c where
  page := congrArg (·.1) h
  view := .of_pane (congrArg (·.2.1) h)
  crumbs crumb hm := .inl (by rwa [show c.crumbs = b.crumbs from congrArg (·.2.2) h] at hm)
  kept s hk := by
    rcases hs with hs | hs
    · rw [hk] at hs; cases hs
    · exact .inl (hs.symm.trans hk)

theorem same (h : c.panes = b.panes) (hs : c.search.snapshot = b.search.snapshot) : Slide b c :=
  stay h (.inr hs)

/-- The view on screen changes alone. -/
theorem here (hp : c.pageSize = b.pageSize) (hv : Glides b.view c.view b.pageSize)
    (hc : c.crumbs = b.crumbs) (hs : c.search.snapshot = b.search.snapshot) : Slide b c where
  page := hp
  view := hv
  crumbs crumb hm := .inl (by rwa [hc] at hm)
  kept s hk := .inl (hs.symm.trans hk)

/-- A view that lies on the one that was on screen. -/
theorem down (hp : c.pageSize = b.pageSize) (hv : Glides b.view c.view b.pageSize)
    (hc : c.crumbs = b.crumb :: b.crumbs)
    (hs : c.search.snapshot = none ∨ c.search.snapshot = b.search.snapshot) : Slide b c where
  page := hp
  view := hv
  crumbs crumb hm := by
    rw [hc] at hm
    rcases List.mem_cons.1 hm with hm | hm
    · exact .inr hm
    · exact .inl hm
  kept s hk := by
    rcases hs with hs | hs
    · rw [hk] at hs; cases hs
    · exact .inl (hs.symm.trans hk)

/-- The rows of the whole archive have new windows, and nothing below them. -/
theorem top (hb : 0 < b.pageSize) (hp : c.pageSize = b.pageSize)
    (hv : c.view.window = {} ∧ c.view.threadWindow = {}) (hc : c.crumbs = [])
    (hs : c.search.snapshot = none) : Slide b c := by
  have hw : c.view.window.Shows b.pageSize := hv.1 ▸ Window.shows_new hb
  have ht : c.view.threadWindow.Shows b.pageSize := hv.2 ▸ Window.shows_new hb
  refine ⟨hp, ⟨.inr hw, .inr ht, fun _ => View.framed_of_shows hw ht⟩, fun crumb hm => ?_,
    fun s hk => ?_⟩
  · rw [hc] at hm; cases hm
  · rw [hs] at hk; cases hk

/-- what follows without a change of windows -/
theorem trans {d : Browser} (h : Slide b c) (hd : d.panes = c.panes)
    (hs : d.search.snapshot = c.search.snapshot) : Slide b d where
  page := (congrArg (·.1) hd).trans h.page
  view :=
    have hp : d.view.pane = c.view.pane := congrArg (·.2.1) hd
    { window := by
        rw [show d.view.window = c.view.window from congrArg (·.2.2.1) hp]
        exact h.view.window
      threadWindow := by
        rw [show d.view.threadWindow = c.view.threadWindow from congrArg (·.2.2.2) hp]
        exact h.view.threadWindow
      framed := fun hv => (h.view.framed hv).congr hp }
  crumbs := by
    rw [show d.crumbs = c.crumbs from congrArg (·.2.2) hd]
    exact h.crumbs
  kept s hk := h.kept s (hs.symm.trans hk)

end Slide

theorem Pan.same {s : Step} (h : s.1.panes = b.panes)
    (hs : s.1.search.snapshot = b.search.snapshot) : Pan b s :=
  .slide (.same h hs)

theorem Pan.forget {s : Step} (h : s.1.panes = b.panes) (hs : s.1.search.snapshot = none) :
    Pan b s :=
  .slide (.stay h (.inl hs))

variable (b)

/-! ## loads -/

theorem reload_panes : b.reload.1.panes = b.panes := by
  unfold reload
  split
  · rfl
  · rfl
  · split <;> rfl
  · rfl
  · split <;> rfl

theorem reload_snapshot : b.reload.1.search.snapshot = b.search.snapshot :=
  (reload_samePlace b).snapshot

theorem loadMore_panes : b.loadMore.1.panes = b.panes ∧
    b.loadMore.1.search.snapshot = b.search.snapshot := by
  unfold loadMore
  dsimp only
  split <;> exact ⟨rfl, rfl⟩

theorem loadMoreDeep_panes : b.loadMoreDeep.1.panes = b.panes ∧
    b.loadMoreDeep.1.search.snapshot = b.search.snapshot := by
  unfold loadMoreDeep
  dsimp only
  split <;> exact ⟨rfl, rfl⟩

/-! ## cursors -/

variable {b}

theorem slide_moveTo (hp : 0 < b.pageSize) (hl : b.view.level.isListed = true) (row : Nat) :
    Slide b (b.withView (b.view.moveTo row b.pageSize)) :=
  .here rfl (.listed (Window.shows_moveTo _ row hp) rfl hl) rfl rfl

theorem slide_moveToInThread (hp : 0 < b.pageSize) (hl : b.view.level = .thread) (row : Nat) :
    Slide b (b.withView (b.view.moveToInThread row b.pageSize)) :=
  .here rfl (.thread rfl (Window.shows_moveTo _ row hp) hl) rfl rfl

theorem Slide.loadMore (h : Slide b c) : Slide b c.loadMore.1 :=
  h.trans (loadMore_panes c).1 (loadMore_panes c).2

theorem Slide.loadMoreDeep (h : Slide b c) : Slide b c.loadMoreDeep.1 :=
  h.trans (loadMoreDeep_panes c).1 (loadMoreDeep_panes c).2

theorem scrollReading_slide (b : Browser) (delta : Int) : Slide b (b.scrollReading delta).1 := by
  unfold scrollReading
  dsimp only
  split
  · exact .same rfl rfl
  · split <;> exact .same rfl rfl

theorem moveCursor_slide (hp : 0 < b.pageSize) (delta : Int) : Slide b (b.moveCursor delta).1 := by
  unfold moveCursor
  split
  · exact scrollReading_slide b delta
  · rename_i hl
    exact slide_moveToInThread hp hl _
  · rename_i hr ht
    exact (slide_moveTo hp (isListed_of_ne hr ht) _).loadMore

theorem toStart_slide (hp : 0 < b.pageSize) : Slide b b.toStart.1 := by
  unfold toStart
  split
  · exact .same rfl rfl
  · rename_i hl
    exact slide_moveToInThread hp hl _
  · rename_i hr ht
    exact slide_moveTo hp (isListed_of_ne hr ht) _

theorem toEnd_slide (hp : 0 < b.pageSize) : Slide b b.toEnd.1 := by
  unfold toEnd
  split
  · exact .same rfl rfl
  · rename_i hl
    exact slide_moveToInThread hp hl _
  · rename_i hr ht
    exact (slide_moveTo hp (isListed_of_ne hr ht) _).loadMore

theorem pageDown_slide (hp : 0 < b.pageSize) (rows : Nat) : Slide b (b.pageDown rows).1 := by
  have hm := moveCursor_slide hp rows
  unfold pageDown
  split
  · exact .same (loadMoreDeep_panes b).1 (loadMoreDeep_panes b).2
  · dsimp only
    split
    · exact hm.loadMoreDeep
    · exact hm

/-! ## a message -/

variable (b) in
theorem showHit_panes : b.showHit.panes = b.panes ∧
    b.showHit.search.snapshot = b.search.snapshot := by
  unfold showHit
  split <;> exact ⟨rfl, rfl⟩

variable (b) in
theorem stepHit_slide (forward : Bool) : Slide b (b.stepHit forward) := by
  unfold stepHit
  dsimp only
  split
  · exact .same rfl rfl
  · exact .same (showHit_panes _).1 (showHit_panes _).2

variable (b) in
theorem commitFind_slide : Slide b b.commitFind := by
  unfold commitFind
  dsimp only
  exact .same (showHit_panes _).1 (showHit_panes _).2

variable (b) in
theorem pressInFind_slide (input : String) (k : Key) : Slide b (b.pressInFind input k) := by
  unfold pressInFind
  split
  · exact commitFind_slide b
  all_goals exact .same rfl rfl

/-- The list behind a message is revealed with the message, on screen or not. -/
theorem turnMessage_slide (hp : 0 < b.pageSize) (delta : Int) (hl : b.view.level = .reading) :
    Slide b (b.turnMessage delta).1 := by
  unfold turnMessage
  dsimp only
  split
  · exact .same rfl rfl
  · split
    · exact .same rfl rfl
    · split
      · exact .same rfl rfl
      · unfold followReading
        split
        · exact .here rfl (.reading (.inl rfl) (.inr (Window.shows_moveTo _ _ hp)) hl) rfl rfl
        · exact .here rfl (.reading (.inr (Window.shows_moveTo _ _ hp)) (.inl rfl) hl) rfl rfl

/-! ## from view to view -/

theorem drill_slide (hp : 0 < b.pageSize) : Slide b b.drill.1 := by
  unfold drill
  split
  · exact .same rfl rfl
  · exact .down rfl (.listed (Window.shows_new hp) rfl rfl) rfl (.inl rfl)

theorem showAll_slide (hp : 0 < b.pageSize) : Slide b b.showAll.1 := by
  have enter {c : Browser} (hc : c.pageSize = b.pageSize) (hv : c.view.pane =
      (.list, 0, {}, b.view.threadWindow)) (hm : c.crumbs = b.crumb :: b.crumbs)
      (hs : c.search.snapshot = none) : Slide b c := by
    simp only [View.pane, Prod.mk.injEq] at hv
    obtain ⟨hl, -, hw, ht⟩ := hv
    refine .down hc (.listed ?_ ht ?_) hm (.inl hs)
    · rw [hw]
      exact Window.shows_new hp
    · rw [hl]
      rfl
  unfold showAll
  by_cases hg : b.view.level = .groups
  · rw [if_pos hg]
    dsimp only
    split <;> exact enter rfl rfl rfl rfl
  · rw [if_neg hg]
    dsimp only
    split <;> exact enter rfl rfl rfl rfl

theorem groupWithin_slide (hp : 0 < b.pageSize) (d : Dimension) : Slide b (b.groupWithin d).1 :=
  .down rfl (.listed (Window.shows_new hp) rfl rfl) rfl (.inl rfl)

theorem groupByTime_slide (hp : 0 < b.pageSize) : Slide b b.groupByTime.1 := by
  unfold groupByTime
  split
  · exact groupWithin_slide hp .time
  · exact .same rfl rfl

variable (b) in
theorem openMessage_slide (fromThread : Bool) : Slide b (b.openMessage fromThread).1 := by
  unfold openMessage
  dsimp only
  split
  · exact .same rfl rfl
  · exact .down rfl (.reading (.inl rfl) (.inl rfl) rfl) rfl (.inr rfl)

theorem openThread_slide (hp : 0 < b.pageSize) : Slide b b.openThread.1 := by
  unfold openThread
  split
  · exact .same rfl rfl
  · exact .down rfl (.thread rfl (Window.shows_new hp) rfl) rfl (.inr rfl)

variable (b) in
theorem goBack_pan : Pan b b.goBack := by
  cases hc : b.crumbs with
  | nil =>
    have hg : b.goBack = b.still := by
      unfold goBack
      rw [hc]
      rfl
    rw [hg]
    exact .same rfl rfl
  | cons crumb rest => exact .back crumb rest hc

theorem switchDimension_slide (hp : 0 < b.pageSize) (hl : b.view.level.isGrouped = true)
    (d : Dimension) : Slide b (b.switchDimension d).1 :=
  .here rfl (.listed (Window.shows_new hp) rfl (isListed_of_isGrouped hl)) rfl rfl

theorem pressTime_slide (hp : 0 < b.pageSize) (hl : b.view.level.isGrouped = true) :
    Slide b b.pressTime.1 := by
  unfold pressTime
  split
  · exact .same rfl rfl
  · split
    · exact .same rfl rfl
    · exact switchDimension_slide hp hl .time

/-- A view that differs in no window is loaded anew. -/
theorem slide_reload {c : Browser} (hp : c.panes = b.panes)
    (hs : c.search.snapshot = b.search.snapshot) : Slide b c.reload.1 :=
  .same ((reload_panes c).trans hp) ((reload_snapshot c).trans hs)

variable (b) in
theorem nextSort_slide : Slide b b.nextSort.1 := by
  unfold nextSort
  split
  · exact .same rfl rfl
  · exact .same rfl rfl
  · exact slide_reload rfl rfl
  · exact .same rfl rfl

variable (b) in
theorem flipSort_slide : Slide b b.flipSort.1 := by
  unfold flipSort
  split
  · exact .same rfl rfl
  · exact .same rfl rfl
  · exact slide_reload rfl rfl
  · exact .same rfl rfl

/-! ## the search line -/

variable (b)

theorem openSearch_slide : Slide b b.openSearch.1 := by
  unfold openSearch
  split
  · dsimp only
    split
    · refine ⟨rfl, .of_pane rfl, fun _ hm => .inl hm, fun s hk => .inr ?_⟩
      rw [← Option.some.inj hk]
      rfl
    · exact .same rfl rfl
  · exact .same rfl rfl

theorem cancelSearch_pan : Pan b b.cancelSearch := by
  by_cases hl : b.view.level = .list
  · cases hk : b.search.snapshot with
    | some kept => exact .retake kept hl hk (.inl rfl)
    | none =>
      unfold cancelSearch
      dsimp only
      rw [if_neg (fun h => by
        rw [Bool.and_eq_true] at h
        have hs : b.search.snapshot.isSome = true := h.2
        rw [hk] at hs
        cases hs)]
      split
      · exact .forget rfl rfl
      · split <;> exact .forget rfl rfl
  · unfold cancelSearch
    dsimp only
    rw [if_neg (fun h => by
      rw [Bool.and_eq_true, decide_eq_true_eq] at h
      exact hl h.1)]
    split
    · exact .forget rfl rfl
    · split <;> exact .forget rfl rfl

theorem commitSearch_pan : Pan b b.commitSearch := by
  unfold commitSearch
  dsimp only
  split
  · exact cancelSearch_pan b
  · split
    · exact .forget rfl rfl
    · split <;> exact .forget rfl rfl
    · split <;> exact .forget rfl rfl
    · exact .forget rfl rfl

theorem toggleMode_slide : Slide b b.toggleMode.1 := by
  unfold toggleMode
  split
  · dsimp only
    split <;> exact .same rfl rfl
  · exact .same rfl rfl

theorem clearSearch_panes (hk : b.search.snapshot = none) : b.clearSearch.1.panes = b.panes ∧
    b.clearSearch.1.search.snapshot = b.search.snapshot := by
  unfold clearSearch
  dsimp only
  rw [show ((b.withQuery "").withSearch b.search.forgetResults).search.snapshot = none from hk]
  exact ⟨rfl, rfl⟩

theorem applyQuery_pan (query : String) : Pan b (b.applyQuery query) := by
  by_cases hr : b.view.level = .list ∧ b.search.snapshot.isSome = true ∧ query = ""
  · obtain ⟨hl, hs, rfl⟩ := hr
    obtain ⟨kept, hk⟩ := Option.isSome_iff_exists.1 hs
    exact .retake kept hl hk (.inr rfl)
  · unfold applyQuery
    dsimp only
    split
    · rename_i hl
      split
      · rename_i hq
        have hk : b.search.snapshot = none := by
          rw [← Option.not_isSome_iff_eq_none]
          exact fun hs => hr ⟨hl, hs, String.isEmpty_iff.1 hq⟩
        have hc := clearSearch_panes (b.withQuery query) hk
        exact .same hc.1 hc.2
      · exact .same rfl rfl
    · exact .same rfl rfl
    · exact .same rfl rfl
    · exact .same rfl rfl

theorem ticked_pan (query : String) (token : Nat) : Pan b (b.ticked query token) := by
  unfold ticked
  split
  · exact applyQuery_pan b _
  · exact .same rfl rfl

/-! ## marks, batches, files -/

theorem toggleMark_slide : Slide b b.toggleMark := by
  unfold toggleMark
  split
  · split <;> exact .same rfl rfl
  · split <;> exact .same rfl rfl
  · split <;> exact .same rfl rfl
  · exact .same rfl rfl

theorem markVisible_slide : Slide b b.markVisible := by
  unfold markVisible
  split <;> exact .same rfl rfl

theorem stageMarked_slide (orCurrent : Bool) : Slide b (b.stageMarked orCurrent).1 := by
  have hm : Slide b (if orCurrent && b.selection.isEmpty then b.toggleMark else b) := by
    split
    · exact toggleMark_slide b
    · exact .same rfl rfl
  unfold stageMarked
  dsimp only
  generalize (if orCurrent && b.selection.isEmpty then b.toggleMark else b) = d at hm
  split <;> exact hm.trans rfl rfl

theorem openExport_slide : Slide b b.openExport.1 := by
  unfold openExport
  split <;> exact .same rfl rfl

theorem exportChosen_slide (chosen : OrdSet Nat) :
    Slide b ({ b with dialog := none }.exportChosen chosen).1 := by
  unfold exportChosen
  split
  · exact .same rfl rfl
  · dsimp only
    split <;> exact .same rfl rfl

/-! ## all keys -/

variable {b}

theorem KeyStep.pan {s : Step} (h : KeyStep b s) (hp : 0 < b.pageSize) : Pan b s := by
  cases h with
  | chooseAccount cursor => exact .slide (.top hp rfl ⟨rfl, rfl⟩ rfl rfl)
  | chooseScope cursor => exact .slide (slide_reload rfl rfl)
  | chooseFiles cursor chosen => exact .slide (exportChosen_slide b chosen)
  | cancelLine => exact cancelSearch_pan b
  | commitLine => exact commitSearch_pan b
  | toggleMode => exact .slide (toggleMode_slide b)
  | find input k => exact .slide (pressInFind_slide b input k)
  | moveCursor delta => exact .slide (moveCursor_slide hp delta)
  | pageDown rows => exact .slide (pageDown_slide hp rows)
  | toStart => exact .slide (toStart_slide hp)
  | toEnd => exact .slide (toEnd_slide hp)
  | drill => exact .slide (drill_slide hp)
  | showAll => exact .slide (showAll_slide hp)
  | groupBy => exact .slide (groupWithin_slide hp _)
  | groupByTime => exact .slide (groupByTime_slide hp)
  | openMessage fromThread => exact .slide (openMessage_slide b fromThread)
  | openThread => exact .slide (openThread_slide hp)
  | goBack => exact goBack_pan b
  | goToTop => exact .slide (.top hp rfl ⟨rfl, rfl⟩ rfl rfl)
  | turnDimension forward hb hl => exact .slide (switchDimension_slide hp hl _)
  | pressTime hb hl => exact .slide (pressTime_slide hp hl)
  | nextSort => exact .slide (nextSort_slide b)
  | flipSort => exact .slide (flipSort_slide b)
  | openSearch => exact .slide (openSearch_slide b)
  | cancelSearch => exact cancelSearch_pan b
  | toggleMark => exact .slide (toggleMark_slide b)
  | markVisible => exact .slide (markVisible_slide b)
  | stageMarked orCurrent => exact .slide (stageMarked_slide b orCurrent)
  | turnMessage delta hb hl => exact .slide (turnMessage_slide hp delta hl)
  | stepHit forward => exact .slide (stepHit_slide b forward)
  | openExport => exact .slide (openExport_slide b)
  | _ => exact .same rfl rfl

/-! ## answers -/

theorem rowsArrived_slide (hp : 0 < b.pageSize) (id : Nat) (r : Answer (List Row)) :
    Slide b (b.rowsArrived id r) := by
  unfold rowsArrived
  split
  · rename_i hc
    rw [Bool.and_eq_true] at hc
    have hl := isListed_of_isGrouped hc.2
    cases r with
    | error q => exact .same rfl rfl
    | ok rows => exact .here rfl (.listed (Window.shows_moveTo _ _ hp) rfl hl) rfl rfl
  · exact .same rfl rfl

theorem messagesArrived_slide (hp : 0 < b.pageSize) (id : Nat) (r : Answer (List Summary)) :
    Slide b (b.messagesArrived id r) := by
  unfold messagesArrived
  split
  · rename_i hc
    rw [Bool.and_eq_true, decide_eq_true_eq] at hc
    have hl : b.view.level.isListed = true := by rw [hc.2]; rfl
    dsimp only
    split
    · exact .same rfl rfl
    · cases r with
      | error q => exact .same rfl rfl
      | ok messages => exact .here rfl (.listed (Window.shows_moveTo _ _ hp) rfl hl) rfl rfl
  · exact .same rfl rfl

theorem threadArrived_slide (hp : 0 < b.pageSize) (id : Nat) (r : Answer (List Summary)) :
    Slide b (b.threadArrived id r) := by
  unfold threadArrived
  split
  · rename_i hc
    rw [Bool.and_eq_true, decide_eq_true_eq] at hc
    cases r with
    | error q => exact .same rfl rfl
    | ok messages => exact .here rfl (.thread rfl (Window.shows_moveTo _ _ hp) hc.2) rfl rfl
  · exact .same rfl rfl

theorem detailArrived_slide (id : Nat) (r : Answer (Option Detail)) :
    Slide b (b.detailArrived id r) := by
  unfold detailArrived
  split
  · dsimp only
    split <;> exact .same rfl rfl
  · exact .same rfl rfl

/-- More of a list with something in it goes after what is there. -/
theorem glides_showPage_more {v : View} {size : Nat} (hl : v.level = .list) {page : SearchPage}
    (hm : v.data.messages ≠ [] ∨ page.messages = []) : Glides v (showPage v page true) size := by
  refine ⟨.inl rfl, .inl rfl, fun hv => ?_⟩
  by_cases hn : v.data.messages = []
  · refine View.framed_of_empty ?_
    unfold View.listLength
    rw [show (showPage v page true).level = .list from hl]
    show (v.data.messages ++ page.messages).length = 0
    rw [hn, hm.resolve_left (absurd hn)]
    rfl
  · have hlist : v.level.isListed = true := by rw [hl]; rfl
    refine View.framed_of_listed hlist (hv.list hlist ?_)
    unfold View.listLength
    rw [hl]
    exact fun h => hn (List.length_eq_zero_iff.1 h)

theorem searchArrived_slide (hp : 0 < b.pageSize) (id : Nat) (append : Bool) (r : Answer SearchPage) :
    Slide b (b.searchArrived id append r) ∨
      ∃ page, append = true ∧ r = .ok page ∧ b.Shows (.searchLoaded id append r) ∧
        b.view.data.messages = [] ∧ page.messages ≠ [] := by
  unfold searchArrived
  split
  · rename_i hc
    rw [Bool.and_eq_true, Bool.and_eq_true, decide_eq_true_eq, Bool.not_eq_true'] at hc
    have hl : b.view.level.isListed = true := by rw [hc.1.2]; rfl
    cases r with
    | error q => exact .inl (.same rfl rfl)
    | ok page =>
      cases append with
      | false => exact .inl (.here rfl (.listed (Window.shows_new hp) rfl hl) rfl rfl)
      | true =>
        by_cases hm : b.view.data.messages ≠ [] ∨ page.messages = []
        · exact .inl (.here rfl (glides_showPage_more hc.1.2 hm) rfl rfl)
        · rw [not_or, Decidable.not_not] at hm
          exact .inr ⟨page, rfl, rfl, ⟨(beq_iff_eq.1 hc.1.1).symm, hc.1.2, hc.2⟩, hm.1, hm.2⟩
  · exact .inl (.same rfl rfl)

/-! ## all steps -/

inductive Passage (b : Browser) (e : Event) : Prop where
  | pan (h : Pan b (b.update e))
  /-- A page more is shown for a list with nothing in it. -/
  | more (id : Nat) (page : SearchPage) (he : e = .searchLoaded id true (.ok page)) (hs : b.Shows e)
      (hm : b.view.data.messages = []) (hn : page.messages ≠ [])
  | resize (height : Nat) (he : e = .resize height)

theorem update_passage (hp : 0 < b.pageSize) (e : Event) : Passage b e := by
  cases e with
  | rowsLoaded id r => exact .pan (.slide (rowsArrived_slide hp id r))
  | messagesLoaded id r => exact .pan (.slide (messagesArrived_slide hp id r))
  | threadLoaded id r => exact .pan (.slide (threadArrived_slide hp id r))
  | detailLoaded id r => exact .pan (.slide (detailArrived_slide id r))
  | searchLoaded id append r =>
    rcases searchArrived_slide hp id append r with h | ⟨page, rfl, rfl, hs, hm, hn⟩
    · exact .pan (.slide h)
    · exact .more id page rfl hs hm hn
  | key k => exact .pan ((press_keyStep b k).pan hp)
  | searchTick query token => exact .pan (ticked_pan b query token)
  | resize height => exact .resize height rfl
  | flashExpired generation =>
    refine .pan (.slide ?_)
    show Slide b (b.expireFlash generation)
    unfold expireFlash
    split <;> exact .same rfl rfl
  | statsLoaded result => cases result <;> exact .pan (.same rfl rfl)
  | accountsLoaded result => cases result <;> exact .pan (.same rfl rfl)
  | manifestBuilt result =>
    refine .pan (.slide ?_)
    show Slide b (b.manifestBuilt result).1
    unfold manifestBuilt
    dsimp only
    split <;> exact .same rfl rfl
  | manifestSaved result =>
    refine .pan (.slide ?_)
    show Slide b (b.manifestSaved result).1
    unfold manifestSaved
    dsimp only
    split <;> exact .same rfl rfl
  | exportFinished result =>
    refine .pan (.slide ?_)
    show Slide b (b.exportFinished result).1
    unfold exportFinished
    dsimp only
    split <;> exact .same rfl rfl

end Browser
end MailBrowser
