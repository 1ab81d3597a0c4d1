import MailBrowser.Proofs.Browser.Scene

/-!
# The quiet steps

* cursors, notices and pages: `moveCursor_quietly`, `toStart_quietly`, `toEnd_quietly`,
  `pageDown_quietly`;
* looking for a text: `stepHit_quiet`, `pressInFind_quiet`;
* marks, batches, files: `toggleMark_quiet` to `exportFinished_quietly`;
* the search line while it is typed: `typed_quietly`.
-/

namespace MailBrowser

theorem Selection.dimension_under (s : Selection) (d : Dimension) : (s.under d).dimension = d := by
  unfold Selection.under
  split
  · assumption
  · rfl

namespace Browser

variable (b : Browser)

/-! ## more pages -/

theorem list_of_canLoadMore {b : Browser} {mode : SearchMode} (h : b.canLoadMore mode = true) :
    b.view.level = .list ∧ b.view.query.isEmpty = false := by
  unfold canLoadMore at h
  simp only [Bool.and_eq_true, decide_eq_true_eq, Bool.not_eq_true'] at h
  exact ⟨h.1.1.1, h.1.1.2⟩

theorem loadMore_quietly : Quietly b b.loadMore := by
  unfold loadMore
  dsimp only
  split
  · rename_i h
    simp only [Bool.and_eq_true] at h
    obtain ⟨hl, hq⟩ := list_of_canLoadMore h.1.1.1
    exact ⟨b, .page _ hl hq, .refl b⟩
  · exact quietly_still (.refl b)

theorem loadMoreDeep_quietly : Quietly b b.loadMoreDeep := by
  unfold loadMoreDeep
  dsimp only
  split
  · rename_i h
    simp only [Bool.and_eq_true] at h
    obtain ⟨hl, hq⟩ := list_of_canLoadMore h.1.1.1
    exact ⟨b, .page _ hl hq, .refl b⟩
  · exact quietly_still (.refl b)

/-! ## cursors -/

theorem scrollReading_quietly (delta : Int) : Quietly b (b.scrollReading delta) := by
  unfold scrollReading
  dsimp only
  split
  · exact ⟨_, .notice _, .withView b rfl rfl rfl rfl⟩
  · split
    · exact ⟨_, .notice _, .withView b rfl rfl rfl rfl⟩
    · exact quietly_still (.withView b rfl rfl rfl rfl)

theorem moveCursor_quietly (delta : Int) : Quietly b (b.moveCursor delta) := by
  unfold moveCursor
  split
  · exact scrollReading_quietly b delta
  · exact quietly_still (.withView b rfl rfl rfl rfl)
  · exact (loadMore_quietly _).after (.withView b rfl rfl rfl rfl)

theorem toStart_quietly : Quietly b b.toStart := by
  unfold toStart
  split <;> exact quietly_still (.withView b rfl rfl rfl rfl)

theorem toEnd_quietly : Quietly b b.toEnd := by
  unfold toEnd
  split
  · exact quietly_still (.withView b rfl rfl rfl rfl)
  · exact quietly_still (.withView b rfl rfl rfl rfl)
  · exact (loadMore_quietly _).after (.withView b rfl rfl rfl rfl)

/-- a quiet step that asks for nothing has made a quiet change -/
theorem Quietly.quiet_of_silent {b : Browser} {s : Step} (h : Quietly b s) (hs : s.2 = []) :
    Quiet b s.1 := by
  obtain ⟨c, he, hc⟩ := h
  cases he with
  | nothing => exact hc
  | _ => simp [notify, searchFrom] at hs

theorem pageDown_quietly (rows : Nat) : Quietly b (b.pageDown rows) := by
  have hm := moveCursor_quietly b rows
  unfold pageDown
  split
  · exact loadMoreDeep_quietly b
  · dsimp only
    split
    · rename_i h
      exact (loadMoreDeep_quietly _).after (hm.quiet_of_silent (List.isEmpty_iff.1 h))
    · exact hm

theorem resize_quiet (height : Nat) : Quiet b (b.resize height) :=
  ⟨⟨rfl, rfl, .inl rfl⟩, ⟨.of_parts rfl, rfl,
    fun _ => rfl, id⟩⟩

/-! ## finding in a message -/

theorem showHit_quiet : Quiet b b.showHit := by
  unfold showHit
  split
  · exact .refl b
  · exact .withView b rfl rfl rfl rfl

theorem Quiet.showHit {b c : Browser} (h : Quiet b c) : Quiet b c.showHit :=
  h.trans (showHit_quiet c)

theorem stepHit_quiet (forward : Bool) : Quiet b (b.stepHit forward) := by
  unfold stepHit
  dsimp only
  split
  · exact .refl b
  · exact Quiet.showHit (.withView b rfl rfl rfl rfl)

theorem pressInFind_quiet (input : String) (k : Key) : Quiet b (b.pressInFind input k) := by
  unfold pressInFind
  split
  · unfold commitFind
    exact Quiet.showHit (.withView b rfl rfl rfl rfl)
  · exact .withView b rfl rfl rfl rfl
  · exact .withView b rfl rfl rfl rfl
  · exact .withView b rfl rfl rfl rfl
  · exact .refl b

/-! ## marks -/

/-- Rows are marked under the dimension on screen. -/
theorem markRows_quiet {s : Selection} (hs : s.dimension = b.view.dimension) :
    Quiet b { b with selection := s } := .of_core rfl .inl (.inr hs)

theorem markMessages_quiet {s : Selection} (hs : s.dimension = b.selection.dimension) :
    Quiet b { b with selection := s } := .of_rest rfl id hs

theorem toggleMark_quiet : Quiet b b.toggleMark := by
  unfold toggleMark
  split
  · split
    · exact markRows_quiet b (b.selection.dimension_under b.view.dimension)
    · exact .refl b
  · split
    · exact markRows_quiet b (b.selection.dimension_under b.view.dimension)
    · exact .refl b
  · split
    · exact markMessages_quiet b rfl
    · exact .refl b
  · exact .refl b

theorem markVisible_quiet : Quiet b b.markVisible := by
  unfold markVisible
  split
  · exact markRows_quiet b (b.selection.dimension_under b.view.dimension)
  · exact markRows_quiet b (b.selection.dimension_under b.view.dimension)
  · exact markMessages_quiet b rfl
  · exact .refl b

theorem stageMarked_quietly (orCurrent : Bool) : Quietly b (b.stageMarked orCurrent) := by
  have hm : Quiet b (if orCurrent && b.selection.isEmpty then b.toggleMark else b) := by
    split
    · exact toggleMark_quiet b
    · exact .refl b
  unfold stageMarked
  dsimp only
  generalize (if orCurrent && b.selection.isEmpty then b.toggleMark else b) = c at hm
  split
  · exact ⟨_, .notice _, hm⟩
  · exact ⟨_, .other _ rfl rfl, hm.trans (.of_rest rfl id rfl)⟩

/-! ## batches and files -/

theorem manifestBuilt_quietly (result : Except DeletionError StagedBatch) :
    Quietly b (b.manifestBuilt result) := by
  unfold manifestBuilt
  dsimp only
  split
  · exact quietly_still (.of_rest rfl (fun h => by cases h) rfl)
  · exact ⟨_, .notice _, .of_rest rfl id rfl⟩
  · exact ⟨_, .notice _, .of_rest rfl id rfl⟩

theorem manifestSaved_quietly (result : Except DeletionError (String × Nat)) :
    Quietly b (b.manifestSaved result) := by
  unfold manifestSaved
  dsimp only
  split <;> exact ⟨_, .notice _, .of_rest rfl id rfl⟩

theorem openExport_quietly : Quietly b b.openExport := by
  unfold openExport
  split
  · exact quietly_still (.refl b)
  · exact ⟨b, .notice _, .refl b⟩
  · exact quietly_still (.of_rest rfl (fun h => by cases h) rfl)

theorem exportChosen_quietly (chosen : OrdSet Nat) : Quietly b (b.exportChosen chosen) := by
  unfold exportChosen
  split
  · exact quietly_still (.refl b)
  · dsimp only
    split
    · exact ⟨b, .notice _, .refl b⟩
    · exact ⟨_, .other _ rfl rfl, .of_rest rfl id rfl⟩

theorem exportFinished_quietly (result : Except ExportError ExportReport) :
    Quietly b (b.exportFinished result) := by
  unfold exportFinished
  dsimp only
  split <;> exact ⟨_, .notice _, .of_rest rfl id rfl⟩

/-! ## keys to input lines and dialogs -/

theorem typed_quietly (input : String) : Quietly b (b.typed input) :=
  ⟨_, .other _ rfl rfl, ⟨rfl, rfl, .inl rfl⟩,
    ⟨.of_parts rfl, rfl, fun _ => rfl, id⟩⟩

theorem closeDialog_quiet : Quiet b { b with dialog := none } :=
  .of_rest rfl (fun h => by cases h) rfl

/-- A dialog that is opened again asks the same. -/
theorem askAgain_quiet {d e : Dialog} (hd : b.dialog = some d) (he : d.sameQuestion e) :
    Quiet b { b with dialog := some e } := by
  refine .of_rest rfl (fun h => ?_) rfl
  have he' : e.isScope = true := h
  cases e with
  | attachmentScope cursor =>
    unfold asksScope
    rw [hd]
    cases d with
    | attachmentScope cursor => rfl
    | _ => exact False.elim he
  | _ => cases he'

/-! ## answers without a number -/

theorem expireFlash_quiet (generation : Nat) : Quiet b (b.expireFlash generation) := by
  unfold expireFlash
  split
  · exact ⟨⟨rfl, rfl, .inr rfl⟩, ⟨.of_parts rfl, rfl,
      fun _ => rfl, id⟩⟩
  · exact .refl b

theorem statsArrived_quiet (r : Answer Stats) : Quiet b (b.statsArrived r) := by
  unfold statsArrived
  split <;> exact .of_rest rfl id rfl

theorem accountsArrived_quiet (r : Answer (List Account)) : Quiet b (b.accountsArrived r) := by
  unfold accountsArrived
  split <;> exact .of_rest rfl id rfl

end Browser
end MailBrowser
