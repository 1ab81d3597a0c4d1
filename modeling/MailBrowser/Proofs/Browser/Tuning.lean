import MailBrowser.Proofs.Browser.KeyStep

/-!
# Settings stay

The settings of a launch hold for its whole session: no key and no answer changes them.

* `KeyStep.tuning`     what keys leave as it is;
* `update_tuning`      what every step leaves as it is, `run_tuning` every run.
-/

namespace MailBrowser
namespace Browser

variable {b : Browser}

/-! ## what is called from several places -/

theorem reload_tuning : b.reload.1.tuning = b.tuning := by
  unfold reload
  split
  · rfl
  · rfl
  · split <;> rfl
  · rfl
  · split <;> rfl

theorem loadMore_tuning : b.loadMore.1.tuning = b.tuning := by
  unfold loadMore
  dsimp only
  split <;> rfl

theorem loadMoreDeep_tuning : b.loadMoreDeep.1.tuning = b.tuning := by
  unfold loadMoreDeep
  dsimp only
  split <;> rfl

theorem clearSearch_tuning : b.clearSearch.1.tuning = b.tuning := by
  unfold clearSearch
  dsimp only
  split <;> rfl

theorem cancelSearch_tuning : b.cancelSearch.1.tuning = b.tuning := by
  unfold cancelSearch
  dsimp only
  split
  · exact clearSearch_tuning
  · split
    · rfl
    · split <;> rfl

theorem applyQuery_tuning (query : String) : (b.applyQuery query).1.tuning = b.tuning := by
  unfold applyQuery
  dsimp only
  split
  · split
    · exact clearSearch_tuning
    · rfl
  · rfl
  · rfl
  · rfl

theorem scrollReading_tuning (delta : Int) : (b.scrollReading delta).1.tuning = b.tuning := by
  unfold scrollReading
  dsimp only
  split
  · rfl
  · split <;> rfl

theorem moveCursor_tuning (delta : Int) : (b.moveCursor delta).1.tuning = b.tuning := by
  unfold moveCursor
  split
  · exact scrollReading_tuning delta
  · rfl
  · exact loadMore_tuning

theorem showHit_tuning : b.showHit.tuning = b.tuning := by
  unfold showHit
  split <;> rfl

theorem toggleMark_tuning : b.toggleMark.tuning = b.tuning := by
  unfold toggleMark
  repeat' split
  all_goals rfl

theorem markVisible_tuning : b.markVisible.tuning = b.tuning := by
  unfold markVisible
  split <;> rfl

theorem stageMarked_tuning (orCurrent : Bool) : (b.stageMarked orCurrent).1.tuning = b.tuning := by
  unfold stageMarked
  dsimp only
  by_cases h : (orCurrent && b.selection.isEmpty) = true
  · rw [if_pos h]
    split <;> exact toggleMark_tuning
  · rw [if_neg h]
    split <;> rfl

/-! ## keys -/

theorem KeyStep.tuning {s : Step} (h : KeyStep b s) : s.1.tuning = b.tuning := by
  cases h with
  | still => rfl
  | quit => rfl
  | shut => rfl
  | leave => rfl
  | ask => rfl
  | save => rfl
  | chooseAccount => rfl
  | chooseScope => exact reload_tuning
  | chooseFiles cursor chosen =>
    unfold exportChosen
    split
    · rfl
    · dsimp only
      split <;> rfl
  | cancelLine => exact cancelSearch_tuning
  | commitLine =>
    unfold commitSearch
    dsimp only
    split
    · exact cancelSearch_tuning
    · split
      · rfl
      · split <;> rfl
      · split <;> rfl
      · rfl
  | toggleMode =>
    unfold Browser.toggleMode
    split
    · dsimp only
      split <;> rfl
    · rfl
  | typed input => rfl
  | find input k =>
    unfold pressInFind
    split
    · exact showHit_tuning
    all_goals rfl
  | moveCursor delta => exact moveCursor_tuning delta
  | pageDown rows =>
    unfold Browser.pageDown
    split
    · exact loadMoreDeep_tuning
    · dsimp only
      split
      · exact loadMoreDeep_tuning.trans (moveCursor_tuning rows)
      · exact moveCursor_tuning rows
  | toStart =>
    unfold Browser.toStart
    split <;> rfl
  | toEnd =>
    unfold Browser.toEnd
    split
    · rfl
    · rfl
    · exact loadMore_tuning
  | drill =>
    unfold Browser.drill
    split <;> rfl
  | showAll =>
    unfold Browser.showAll
    dsimp only
    split <;> rfl
  | groupBy => rfl
  | groupByTime =>
    unfold Browser.groupByTime
    split <;> rfl
  | openMessage fromThread =>
    unfold Browser.openMessage
    dsimp only
    split <;> rfl
  | openThread =>
    unfold Browser.openThread
    split <;> rfl
  | goBack =>
    unfold Browser.goBack
    split
    · rfl
    · dsimp only
      split
      · rfl
      · exact reload_tuning
  | goToTop => rfl
  | turnDimension => rfl
  | pressTime =>
    unfold Browser.pressTime
    split
    · rfl
    · split <;> rfl
  | nextSort =>
    unfold Browser.nextSort
    split
    · rfl
    · rfl
    · exact reload_tuning
    · rfl
  | flipSort =>
    unfold Browser.flipSort
    split
    · rfl
    · rfl
    · exact reload_tuning
    · rfl
  | openSearch =>
    unfold Browser.openSearch
    split <;> rfl
  | cancelSearch => exact cancelSearch_tuning
  | toggleMark => exact toggleMark_tuning
  | markVisible => exact markVisible_tuning
  | clearMarks => rfl
  | stageMarked orCurrent => exact stageMarked_tuning orCurrent
  | turnMessage delta =>
    unfold Browser.turnMessage
    dsimp only
    split
    · rfl
    · split
      · rfl
      · split <;> rfl
  | openFind => rfl
  | stepHit forward =>
    unfold Browser.stepHit
    dsimp only
    split
    · rfl
    · exact showHit_tuning
  | clearFind => rfl
  | openExport =>
    unfold Browser.openExport
    split <;> rfl
  | askAccount => rfl
  | askScope => rfl
  | askHelp => rfl
  | askQuit => rfl

/-! ## all events -/

theorem update_tuning (b : Browser) (e : Event) : (b.update e).1.tuning = b.tuning := by
  cases e with
  | key k => exact (press_keyStep b k).tuning
  | resize height => rfl
  | rowsLoaded id r =>
    show (b.rowsArrived id r).tuning = _
    unfold rowsArrived
    dsimp only
    repeat' split
    all_goals rfl
  | messagesLoaded id r =>
    show (b.messagesArrived id r).tuning = _
    unfold messagesArrived
    dsimp only
    repeat' split
    all_goals rfl
  | threadLoaded id r =>
    show (b.threadArrived id r).tuning = _
    unfold threadArrived
    dsimp only
    repeat' split
    all_goals rfl
  | detailLoaded id r =>
    show (b.detailArrived id r).tuning = _
    unfold detailArrived
    dsimp only
    repeat' split
    all_goals rfl
  | searchLoaded id append r =>
    show (b.searchArrived id append r).tuning = _
    unfold searchArrived
    dsimp only
    repeat' split
    all_goals rfl
  | searchTick query token =>
    show (b.ticked query token).1.tuning = _
    unfold ticked
    split
    · exact applyQuery_tuning _
    · rfl
  | flashExpired generation =>
    show (b.expireFlash generation).tuning = _
    unfold expireFlash
    split <;> rfl
  | statsLoaded r => cases r <;> rfl
  | accountsLoaded r => cases r <;> rfl
  | manifestBuilt r =>
    show (b.manifestBuilt r).1.tuning = _
    unfold Browser.manifestBuilt
    dsimp only
    split <;> rfl
  | manifestSaved r => cases r <;> rfl
  | exportFinished r => cases r <;> rfl

/-- **Nothing that happens changes the settings.** -/
theorem run_tuning (b : Browser) (es : List Event) : (b.run es).1.tuning = b.tuning :=
  run_keeps (fun c e h => (update_tuning c e).trans h) rfl es

end Browser
end MailBrowser
