import MailBrowser.Proofs.Requests.Fits

/-!
# What steps do to a message on screen

The sheet of a view is the message that it holds, what is looked for in it, and how far it is
scrolled.  How many lines a message has is counted when it arrives, once for all views, and how many
fit is a matter of the screen.

* `View.sheet`    the sheet of a view; `sheets` with what the browser keeps beside it;
* `Looks`         what becomes of a text that is looked for;
* `Scrolls`       what becomes of how far a message is scrolled;
* `Reads`         all that steps do to sheets, a new size and an answer apart; `KeyStep.reads`;
* `update_reads`  every step does this, or changes the size of the page, or shows a message.
-/

namespace MailBrowser

def View.sheet (v : View) : Level × Option Detail × Find × Nat :=
  (v.level, v.data.detail, v.find, v.readingScroll)

namespace Browser
open Text

def sheets (b : Browser) : (Level × Option Detail × Find × Nat) × List Crumb × Nat × Nat :=
  (b.view.sheet, b.crumbs, b.readingLines, b.pageSize)

inductive Looks (b : Browser) : Find → Prop where
  | same : Looks b b.view.find
  | typed (input : Option String) : Looks b { b.view.find with input }
  | dropped : Looks b {}
  | committed (text : String) : Looks b {
      text, hits := if text.isEmpty then [] else linesWith b.view.data.detail (lower text) }
  | stepped (hit : Nat) (h : hit < b.view.find.hits.length) : Looks b { b.view.find with hit }

inductive Reads (b : Browser) (s : Step) : Prop where
  | stay (hv : s.1.sheets = b.sheets)
  | look (f : Find) (scroll : Nat) (hf : Looks b f)
      (hs : scroll = b.view.readingScroll ∨ scroll ≤ b.maxReadingScroll)
      (hv : s.1.sheets =
        ((b.view.level, b.view.data.detail, f, scroll), b.crumbs, b.readingLines, b.pageSize))
  /-- down to a list, to rows or to a thread -/
  | leave (level : Level) (hl : level ≠ .reading)
      (hv : s.1.sheets = ((level, b.view.data.detail, b.view.find, b.view.readingScroll),
        b.crumb :: b.crumbs, b.readingLines, b.pageSize))
  /-- to a message that is to be loaded -/
  | await (crumbs : List Crumb) (hc : crumbs = b.crumbs ∨ crumbs = b.crumb :: b.crumbs)
      (hv : s.1.sheets = ((.reading, none, {}, 0), crumbs, 0, b.pageSize))
  | back (crumb : Crumb) (rest : List Crumb) (hs : s = b.goBack) (hc : b.crumbs = crumb :: rest)
      (hv : s.1.sheets = (crumb.restore.sheet, rest, b.readingLines, b.pageSize))
  | top (hv : s.1.sheets = (({} : View).sheet, [], b.readingLines, b.pageSize))

/-- The message on screen is scrolled no further than it goes, or as far as it was. -/
def Scrolls (b c : Browser) : Prop :=
  ∃ scroll, (scroll = b.view.readingScroll ∨ scroll ≤ b.maxReadingScroll) ∧
    c.sheets = ((b.view.level, b.view.data.detail, b.view.find, scroll), b.crumbs, b.readingLines,
      b.pageSize)

variable (b : Browser)

/-! ## steps that leave sheets alone -/

theorem reload_sheets : b.reload.1.sheets = b.sheets := by
  unfold reload
  split
  · rfl
  · rfl
  · split <;> rfl
  · rfl
  · split <;> rfl

theorem loadMore_sheets : b.loadMore.1.sheets = b.sheets := by
  unfold loadMore
  dsimp only
  split <;> rfl

theorem loadMoreDeep_sheets : b.loadMoreDeep.1.sheets = b.sheets := by
  unfold loadMoreDeep
  dsimp only
  split <;> rfl

theorem pressTime_sheets : b.pressTime.1.sheets = b.sheets := by
  unfold pressTime
  split
  · rfl
  · split <;> rfl

theorem nextSort_sheets : b.nextSort.1.sheets = b.sheets := by
  unfold nextSort
  split
  · rfl
  · rfl
  · exact reload_sheets _
  · rfl

theorem flipSort_sheets : b.flipSort.1.sheets = b.sheets := by
  unfold flipSort
  split
  · rfl
  · rfl
  · exact reload_sheets _
  · rfl

theorem openSearch_sheets : b.openSearch.1.sheets = b.sheets := by
  unfold openSearch
  split <;> rfl

theorem clearSearch_sheets : b.clearSearch.1.sheets = b.sheets := by
  unfold clearSearch
  dsimp only
  split <;> rfl

theorem cancelSearch_sheets : b.cancelSearch.1.sheets = b.sheets := by
  unfold cancelSearch
  dsimp only
  split
  · exact clearSearch_sheets (b.withSearch
      { b.search with active := false, input := "" }.bumpToken)
  · split
    · rfl
    · split <;> rfl

theorem commitSearch_sheets : b.commitSearch.1.sheets = b.sheets := by
  unfold commitSearch
  dsimp only
  split
  · exact cancelSearch_sheets b
  · split
    · rfl
    · split <;> rfl
    · split <;> rfl
    · rfl

theorem toggleMode_sheets : b.toggleMode.1.sheets = b.sheets := by
  unfold toggleMode
  split
  · dsimp only
    split <;> rfl
  · rfl

theorem applyQuery_sheets (query : String) : (b.applyQuery query).1.sheets = b.sheets := by
  unfold applyQuery
  dsimp only
  split
  · split
    · exact clearSearch_sheets (b.withQuery query)
    · rfl
  all_goals rfl

theorem ticked_sheets (query : String) (token : Nat) :
    (b.ticked query token).1.sheets = b.sheets := by
  unfold ticked
  split
  · exact applyQuery_sheets b _
  · rfl

theorem toggleMark_sheets : b.toggleMark.sheets = b.sheets := by
  unfold toggleMark
  split
  · split <;> rfl
  · split <;> rfl
  · split <;> rfl
  · rfl

theorem markVisible_sheets : b.markVisible.sheets = b.sheets := by
  unfold markVisible
  split <;> rfl

theorem stageMarked_sheets (orCurrent : Bool) : (b.stageMarked orCurrent).1.sheets = b.sheets := by
  have hm : (if orCurrent && b.selection.isEmpty then b.toggleMark else b).sheets = b.sheets := by
    split
    · exact toggleMark_sheets b
    · rfl
  unfold stageMarked
  dsimp only
  generalize (if orCurrent && b.selection.isEmpty then b.toggleMark else b) = d at hm
  split <;> exact hm

theorem openExport_sheets : b.openExport.1.sheets = b.sheets := by
  unfold openExport
  split <;> rfl

theorem exportChosen_sheets (chosen : OrdSet Nat) :
    ({ b with dialog := none }.exportChosen chosen).1.sheets = b.sheets := by
  unfold exportChosen
  split
  · rfl
  · dsimp only
    split <;> rfl

/-! ## scrolling -/

theorem scrolls_of_sheets {b c : Browser} (h : c.sheets = b.sheets) : Scrolls b c :=
  ⟨_, .inl rfl, h⟩

theorem scrollReading_scrolls (delta : Int) : Scrolls b (b.scrollReading delta).1 := by
  unfold scrollReading
  dsimp only
  split
  · exact ⟨_, .inr (Nat.min_le_right _ _), rfl⟩
  · split
    · exact ⟨_, .inr (Nat.min_le_right _ _), rfl⟩
    · exact ⟨_, .inr (Nat.le_of_lt_succ (stepIn_lt (Nat.succ_pos _))), rfl⟩

theorem moveCursor_scrolls (delta : Int) : Scrolls b (b.moveCursor delta).1 := by
  unfold moveCursor
  split
  · exact scrollReading_scrolls b delta
  · exact scrolls_of_sheets rfl
  · exact scrolls_of_sheets (loadMore_sheets _)

theorem toStart_scrolls : Scrolls b b.toStart.1 := by
  unfold toStart
  split
  · exact ⟨0, .inr (Nat.zero_le _), rfl⟩
  · exact scrolls_of_sheets rfl
  · exact scrolls_of_sheets rfl

theorem toEnd_scrolls : Scrolls b b.toEnd.1 := by
  unfold toEnd
  split
  · exact ⟨_, .inr (Nat.le_refl _), rfl⟩
  · exact scrolls_of_sheets rfl
  · exact scrolls_of_sheets (loadMore_sheets _)

theorem pageDown_scrolls (rows : Nat) : Scrolls b (b.pageDown rows).1 := by
  have hm := moveCursor_scrolls b rows
  unfold pageDown
  split
  · exact scrolls_of_sheets (loadMoreDeep_sheets b)
  · dsimp only
    split
    · obtain ⟨scroll, hs, hv⟩ := hm
      exact ⟨scroll, hs, (loadMoreDeep_sheets _).trans hv⟩
    · exact hm

theorem showHit_scrolls : Scrolls b b.showHit := by
  unfold showHit
  split
  · exact scrolls_of_sheets rfl
  · exact ⟨_, .inr (Nat.min_le_right _ _), rfl⟩

variable {b} {s : Step}

theorem Scrolls.reads (h : Scrolls b s.1) : Reads b s := by
  obtain ⟨scroll, hs, hv⟩ := h
  exact .look _ scroll .same hs hv

/-! ## finding in a message -/

/-- another text or another hit, and the message scrolled to it -/
theorem showHit_reads {f : Find} (hf : Looks b f) :
    Reads b (b.withView { b.view with find := f }).showHit.still := by
  obtain ⟨scroll, hs, hv⟩ := showHit_scrolls (b.withView { b.view with find := f })
  exact .look f scroll hf hs hv

theorem look_reads {f : Find} (hf : Looks b f) :
    Reads b (b.withView { b.view with find := f }).still :=
  .look f _ hf (.inl rfl) rfl

theorem stepHit_reads (b : Browser) (forward : Bool) : Reads b (b.stepHit forward).still := by
  unfold stepHit
  dsimp only
  split
  · exact .stay rfl
  · rename_i hn
    rw [not_or] at hn
    refine showHit_reads (.stepped _ ?_)
    split <;> exact Nat.mod_lt _ (Nat.pos_of_ne_zero hn.2)

theorem pressInFind_reads (b : Browser) (input : String) (k : Key) :
    Reads b (b.pressInFind input k).still := by
  unfold pressInFind
  split
  · exact showHit_reads (.committed _)
  · exact look_reads (.typed _)
  · exact look_reads (.typed _)
  · exact look_reads (.typed _)
  · exact .stay rfl

/-! ## from view to view -/

theorem drill_reads (b : Browser) : Reads b b.drill := by
  unfold drill
  split
  · exact .stay rfl
  · exact .leave .list (by decide) rfl

theorem showAll_reads (b : Browser) : Reads b b.showAll := by
  unfold showAll
  by_cases hg : b.view.level = .groups
  · rw [if_pos hg]
    dsimp only
    split <;> exact .leave .list (by decide) rfl
  · rw [if_neg hg]
    dsimp only
    split <;> exact .leave .list (by decide) rfl

theorem groupWithin_reads (b : Browser) (d : Dimension) : Reads b (b.groupWithin d) :=
  .leave .subgroups (by decide) rfl

theorem groupByTime_reads (b : Browser) : Reads b b.groupByTime := by
  unfold groupByTime
  split
  · exact groupWithin_reads b .time
  · exact .stay rfl

theorem openMessage_reads (b : Browser) (fromThread : Bool) :
    Reads b (b.openMessage fromThread) := by
  unfold openMessage
  dsimp only
  split
  · exact .stay rfl
  · exact .await _ (.inr rfl) rfl

theorem turnMessage_reads (delta : Int) (hl : b.view.level = .reading) :
    Reads b (b.turnMessage delta) := by
  unfold turnMessage
  dsimp only
  split
  · exact .stay rfl
  · split
    · exact .stay rfl
    · split
      · exact .stay rfl
      · refine .await _ (.inl rfl) ?_
        rw [← hl]
        unfold followReading
        split <;> rfl

theorem openThread_reads (b : Browser) : Reads b b.openThread := by
  unfold openThread
  split
  · exact .stay rfl
  · exact .leave .thread (by decide) rfl

theorem sheet_resumeAfter (left v : View) (page : Nat) :
    (resumeAfter left v page).sheet = v.sheet := by
  unfold resumeAfter
  split <;> rfl

theorem goBack_sheets {crumb : Crumb} {rest : List Crumb} (h : b.crumbs = crumb :: rest) :
    b.goBack.1.sheets = (crumb.restore.sheet, rest, b.readingLines, b.pageSize) := by
  have hr : (b.resume crumb rest).sheets =
      (crumb.restore.sheet, rest, b.readingLines, b.pageSize) := by
    rw [← sheet_resumeAfter b.view crumb.restore b.pageSize]
    rfl
  rw [goBack_eq h]
  split
  · exact hr
  · exact (reload_sheets _).trans hr

theorem goBack_reads (b : Browser) : Reads b b.goBack := by
  cases hc : b.crumbs with
  | nil =>
    refine .stay ?_
    unfold goBack
    rw [hc]
  | cons crumb rest => exact .back crumb rest rfl hc (goBack_sheets hc)

/-! ## all steps -/

theorem KeyStep.reads (h : KeyStep b s) : Reads b s := by
  cases h with
  | chooseAccount => exact .top rfl
  | chooseScope => exact .stay (reload_sheets _)
  | chooseFiles cursor chosen => exact .stay (exportChosen_sheets b chosen)
  | cancelLine => exact .stay (cancelSearch_sheets b)
  | commitLine => exact .stay (commitSearch_sheets b)
  | toggleMode => exact .stay (toggleMode_sheets b)
  | find input k => exact pressInFind_reads b input k
  | moveCursor delta => exact (moveCursor_scrolls b delta).reads
  | pageDown rows => exact (pageDown_scrolls b rows).reads
  | toStart => exact (toStart_scrolls b).reads
  | toEnd => exact (toEnd_scrolls b).reads
  | drill => exact drill_reads b
  | showAll => exact showAll_reads b
  | groupBy => exact groupWithin_reads b _
  | groupByTime => exact groupByTime_reads b
  | openMessage fromThread => exact openMessage_reads b fromThread
  | openThread => exact openThread_reads b
  | goBack => exact goBack_reads b
  | goToTop => exact .top rfl
  | pressTime => exact .stay (pressTime_sheets b)
  | nextSort => exact .stay (nextSort_sheets b)
  | flipSort => exact .stay (flipSort_sheets b)
  | openSearch => exact .stay (openSearch_sheets b)
  | cancelSearch => exact .stay (cancelSearch_sheets b)
  | toggleMark => exact .stay (toggleMark_sheets b)
  | markVisible => exact .stay (markVisible_sheets b)
  | stageMarked orCurrent => exact .stay (stageMarked_sheets b orCurrent)
  | turnMessage delta hb hl => exact turnMessage_reads delta hl
  | openFind => exact look_reads (.typed _)
  | stepHit forward => exact stepHit_reads b forward
  | clearFind => exact look_reads .dropped
  | openExport => exact .stay (openExport_sheets b)
  | _ => exact .stay rfl

/-- **Every step does what a key or a tick can do, or changes the size of the page, or shows a
message that has arrived.** -/
theorem update_reads (b : Browser) (e : Event) :
    Reads b (b.update e) ∨ (∃ height, e = .resize height) ∨
      ∃ id d, e = .detailLoaded id (.ok (some d)) ∧ b.Shows e := by
  cases e with
  | key k => exact .inl (press_keyStep b k).reads
  | resize height => exact .inr (.inl ⟨height, rfl⟩)
  | searchTick query token => exact .inl (.stay (ticked_sheets b query token))
  | rowsLoaded id r =>
    refine .inl (.stay ?_)
    show (b.rowsArrived id r).sheets = _
    unfold rowsArrived
    split
    · cases r <;> rfl
    · rfl
  | messagesLoaded id r =>
    refine .inl (.stay ?_)
    show (b.messagesArrived id r).sheets = _
    unfold messagesArrived
    split
    · dsimp only
      split
      · rfl
      · cases r <;> rfl
    · rfl
  | threadLoaded id r =>
    refine .inl (.stay ?_)
    show (b.threadArrived id r).sheets = _
    unfold threadArrived
    split
    · cases r <;> rfl
    · rfl
  | detailLoaded id r =>
    by_cases hc : (b.ledger.isCurrent .detail id && b.view.level = .reading) = true
    · have hu : b.update (.detailLoaded id r) = (b.detailArrived id r).still := rfl
      unfold detailArrived at hu
      rw [if_pos hc] at hu
      rw [hu]
      rw [Bool.and_eq_true, decide_eq_true_eq] at hc
      cases r with
      | error q => exact .inl (.stay rfl)
      | ok answer =>
        cases answer with
        | none => exact .inl (.stay rfl)
        | some d => exact .inr (.inr ⟨id, d, rfl, (beq_iff_eq.1 hc.1).symm, hc.2⟩)
    · refine .inl (.stay ?_)
      show (b.detailArrived id r).sheets = _
      unfold detailArrived
      rw [if_neg hc]
  | searchLoaded id append r =>
    refine .inl (.stay ?_)
    show (b.searchArrived id append r).sheets = _
    unfold searchArrived
    split
    · cases r <;> rfl
    · rfl
  | flashExpired generation =>
    refine .inl (.stay ?_)
    show (b.expireFlash generation).sheets = _
    unfold expireFlash
    split <;> rfl
  | statsLoaded result => cases result <;> exact .inl (.stay rfl)
  | accountsLoaded result => cases result <;> exact .inl (.stay rfl)
  | manifestBuilt result =>
    refine .inl (.stay ?_)
    show (b.manifestBuilt result).1.sheets = _
    unfold manifestBuilt
    dsimp only
    split <;> rfl
  | manifestSaved result =>
    refine .inl (.stay ?_)
    show (b.manifestSaved result).1.sheets = _
    unfold manifestSaved
    dsimp only
    split <;> rfl
  | exportFinished result =>
    refine .inl (.stay ?_)
    show (b.exportFinished result).1.sheets = _
    unfold exportFinished
    dsimp only
    split <;> rfl

/-- a message that is shown -/
theorem shown_sheets {id : Nat} {d : Detail} (h : b.Shows (.detailLoaded id (.ok (some d)))) :
    (b.update (.detailLoaded id (.ok (some d)))).1.sheets =
      ((.reading, some d, b.view.find, b.view.readingScroll), b.crumbs, d.lines.length,
        b.pageSize) := by
  show (b.detailArrived id (.ok (some d))).sheets = _
  unfold detailArrived
  rw [if_pos (by
    rw [Bool.and_eq_true, decide_eq_true_eq]
    exact ⟨beq_iff_eq.2 h.1.symm, h.2⟩), ← h.2]
  rfl

end Browser
end MailBrowser
