import MailBrowser.Browser.Update

/-!
# What a browser stands for

Loads, cursors, orders and texts that are looked for leave alone what a browser stands for.  The
search line changes the query of the view and no more, and marks are made without anything else.

* `standing`      the filter of the view, its query and the size of its periods, the way back, the
                  scope with its totals, and what is marked;
* `reload_standing` to `openSearch_standing`   steps that leave it alone;
* `SameButQuery`  the query may be another one: `cancelSearch_sameButQuery` to
                  `ticked_sameButQuery`;
* `toggleMark_standing`, `markVisible_standing`  only marks are other ones;
* `update_news`   answers, and other events that change nothing of this.
-/

namespace MailBrowser

/-- What comes without anything being asked for or marked after it, and without new totals. -/
def Event.isNews : Event → Bool
  | .key _ | .searchTick _ _ | .statsLoaded _ => false
  | .manifestBuilt _ | .manifestSaved _ | .exportFinished _ => false
  | _ => true

namespace Browser

def standing (b : Browser) : Granularity × Filter × String × List Crumb × Option Stats ×
    Option Int × Bool × Selection :=
  (b.view.granularity, b.view.filter, b.view.query, b.crumbs, b.stats, b.account,
    b.attachmentsOnly, b.selection)

variable (b : Browser)

/-! ## loads and cursors -/

theorem searchAfresh_standing : b.searchAfresh.1.standing = b.standing := rfl

theorem loadRows_standing : b.loadRows.1.standing = b.standing := rfl

theorem reload_standing : b.reload.1.standing = b.standing := by
  unfold reload
  split
  · rfl
  · rfl
  · split <;> rfl
  · rfl
  · split <;> rfl

theorem loadMore_standing : b.loadMore.1.standing = b.standing := by
  unfold loadMore
  dsimp only
  split <;> rfl

theorem loadMoreDeep_standing : b.loadMoreDeep.1.standing = b.standing := by
  unfold loadMoreDeep
  dsimp only
  split <;> rfl

theorem moveCursor_standing (delta : Int) : (b.moveCursor delta).1.standing = b.standing := by
  unfold moveCursor
  split
  · unfold scrollReading
    dsimp only
    split
    · rfl
    · split <;> rfl
  · rfl
  · exact loadMore_standing _

theorem toStart_standing : b.toStart.1.standing = b.standing := by
  unfold toStart
  split <;> rfl

theorem toEnd_standing : b.toEnd.1.standing = b.standing := by
  unfold toEnd
  split
  · rfl
  · rfl
  · exact loadMore_standing _

theorem pageDown_standing (rows : Nat) : (b.pageDown rows).1.standing = b.standing := by
  unfold pageDown
  split
  · exact loadMoreDeep_standing b
  · dsimp only
    split
    · exact (loadMoreDeep_standing _).trans (moveCursor_standing b rows)
    · exact moveCursor_standing b rows

/-! ## a message -/

theorem showHit_standing : b.showHit.standing = b.standing := by
  unfold showHit
  split <;> rfl

theorem stepHit_standing (forward : Bool) : (b.stepHit forward).standing = b.standing := by
  unfold stepHit
  dsimp only
  split
  · rfl
  · exact showHit_standing _

theorem pressInFind_standing (input : String) (k : Key) :
    (b.pressInFind input k).standing = b.standing := by
  unfold pressInFind
  split
  · unfold commitFind
    exact showHit_standing _
  all_goals rfl

theorem turnMessage_standing (delta : Int) : (b.turnMessage delta).1.standing = b.standing := by
  unfold turnMessage
  dsimp only
  split
  · rfl
  · split
    · rfl
    · split
      · rfl
      · unfold followReading
        split <;> rfl

/-! ## orders -/

theorem nextSort_standing : b.nextSort.1.standing = b.standing := by
  unfold nextSort
  split
  · rfl
  · rfl
  · exact reload_standing _
  · rfl

theorem flipSort_standing : b.flipSort.1.standing = b.standing := by
  unfold flipSort
  split
  · rfl
  · rfl
  · exact reload_standing _
  · rfl

/-! ## the search line -/

/-- At most the query of the view is another one. -/
def SameButQuery (b c : Browser) : Prop := ∃ query, c.standing = (b.withQuery query).standing

theorem standing_withSearch (search : SearchSession) (query : String) :
    ((b.withSearch search).withQuery query).standing = (b.withQuery query).standing := rfl

theorem openSearch_standing : b.openSearch.1.standing = b.standing := by
  unfold openSearch
  split <;> rfl

theorem clearSearch_standing : b.clearSearch.1.standing = (b.withQuery "").standing := by
  unfold clearSearch
  dsimp only
  split <;> rfl

theorem cancelSearch_sameButQuery : SameButQuery b b.cancelSearch.1 := by
  unfold cancelSearch
  dsimp only
  split
  · exact ⟨"", clearSearch_standing _⟩
  · split
    · exact ⟨b.view.query, rfl⟩
    · split <;> exact ⟨"", rfl⟩

theorem commitSearch_sameButQuery : SameButQuery b b.commitSearch.1 := by
  unfold commitSearch
  dsimp only
  split
  · exact cancelSearch_sameButQuery b
  · split
    · exact ⟨_, (searchAfresh_standing _).trans (standing_withSearch b _ _)⟩
    · split
      · exact ⟨b.view.query, rfl⟩
      · exact ⟨_, (loadRows_standing _).trans (standing_withSearch b _ _)⟩
    · split
      · exact ⟨b.view.query, rfl⟩
      · exact ⟨_, (loadRows_standing _).trans (standing_withSearch b _ _)⟩
    · exact ⟨b.view.query, rfl⟩

theorem toggleMode_sameButQuery : SameButQuery b b.toggleMode.1 := by
  unfold toggleMode
  split
  · dsimp only
    split
    · exact ⟨b.view.query, rfl⟩
    · exact ⟨_, (searchAfresh_standing _).trans (standing_withSearch b _ _)⟩
  · exact ⟨b.view.query, rfl⟩

theorem applyQuery_standing (query : String) :
    (b.applyQuery query).1.standing = (b.withQuery query).standing := by
  unfold applyQuery
  dsimp only
  split
  · split
    · rename_i hq
      rw [clearSearch_standing, String.isEmpty_iff.1 hq]
      rfl
    · rfl
  all_goals rfl

theorem ticked_sameButQuery (query : String) (token : Nat) :
    SameButQuery b (b.ticked query token).1 := by
  unfold ticked
  split
  · exact ⟨_, applyQuery_standing b _⟩
  · exact ⟨b.view.query, rfl⟩

/-! ## marks -/

theorem toggleMark_standing :
    b.toggleMark.standing = { b with selection := b.toggleMark.selection }.standing := by
  unfold toggleMark
  split
  · split <;> rfl
  · split <;> rfl
  · split <;> rfl
  · rfl

theorem markVisible_standing :
    b.markVisible.standing = { b with selection := b.markVisible.selection }.standing := by
  unfold markVisible
  split <;> rfl

/-! ## news -/

/-- News change neither what the browser stands for nor what is typed. -/
theorem update_news {e : Event} (he : e.isNews = true) : ∃ c : Browser, b.update e = c.still ∧
    c.standing = b.standing ∧ (c.search.token, c.search.active, c.search.input, c.view.level) =
      (b.search.token, b.search.active, b.search.input, b.view.level) := by
  cases e with
  | rowsLoaded id result =>
    refine ⟨b.rowsArrived id result, rfl, ?_⟩
    unfold rowsArrived
    split
    · cases result <;> exact ⟨rfl, rfl⟩
    · exact ⟨rfl, rfl⟩
  | messagesLoaded id result =>
    refine ⟨b.messagesArrived id result, rfl, ?_⟩
    unfold messagesArrived
    split
    · dsimp only
      split
      · exact ⟨rfl, rfl⟩
      · cases result <;> exact ⟨rfl, rfl⟩
    · exact ⟨rfl, rfl⟩
  | threadLoaded id result =>
    refine ⟨b.threadArrived id result, rfl, ?_⟩
    unfold threadArrived
    split
    · cases result <;> exact ⟨rfl, rfl⟩
    · exact ⟨rfl, rfl⟩
  | detailLoaded id result =>
    refine ⟨b.detailArrived id result, rfl, ?_⟩
    unfold detailArrived
    split
    · dsimp only
      split <;> exact ⟨rfl, rfl⟩
    · exact ⟨rfl, rfl⟩
  | searchLoaded id append result =>
    refine ⟨b.searchArrived id append result, rfl, ?_⟩
    unfold searchArrived
    split
    · cases result <;> exact ⟨rfl, rfl⟩
    · exact ⟨rfl, rfl⟩
  | flashExpired generation =>
    refine ⟨b.expireFlash generation, rfl, ?_⟩
    unfold expireFlash
    split <;> exact ⟨rfl, rfl⟩
  | accountsLoaded result =>
    refine ⟨b.accountsArrived result, rfl, ?_⟩
    cases result <;> exact ⟨rfl, rfl⟩
  | resize height => exact ⟨b.resize height, rfl, rfl, rfl⟩
  | _ => cases he

end Browser
end MailBrowser
