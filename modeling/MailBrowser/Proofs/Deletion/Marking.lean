import Mathlib.Data.List.Induction
import MailBrowser.Proofs.Browser.Standing
import MailBrowser.Proofs.Browser.Way

/-!
# How marks change

Three keys make marks, on rows and on lists.  Every other step keeps them, or drops them together.

* `Thinned`        the marks kept, without those of rows, or without any;
* `Marking`        the keys that make marks, and the marks after them;
* `update_marks`   every step does one or the other;
* `EverSince`      what has held throughout since some step of a session;
* `everSince_of_holds`   what holds in the end, if it only comes with steps of a kind.
-/

namespace MailBrowser

/-- Marks that are dropped may leave another dimension behind. -/
inductive Selection.Thinned (s : Selection) : Selection → Prop where
  | same : Thinned s s
  | noRows (d : Dimension) : Thinned s (s.retag d)
  | none (d : Dimension) : Thinned s (s.clear.retag d)

namespace Browser

variable {b c : Browser} {s : Step} {e : Event} {k : Key}

/-- a step that makes no mark -/
def Thins (b c : Browser) : Prop := b.selection.Thinned c.selection

/-! ## steps that make no mark -/

theorem Thins.of_same (h : c.selection = b.selection) : Thins b c := by
  unfold Thins
  rw [h]
  exact .same

theorem Thins.of_standing (h : c.standing = b.standing) : Thins b c := by
  simp only [standing, Prod.mk.injEq] at h
  exact .of_same h.2.2.2.2.2.2.2

theorem SameButQuery.thins (h : SameButQuery b c) : Thins b c := by
  obtain ⟨query, h⟩ := h
  exact .of_standing (b := b.withQuery query) h

theorem drill_thins (b : Browser) : Thins b b.drill.1 := by
  unfold drill
  split
  · exact .same
  · by_cases hl : b.view.level = .groups
    · rw [if_pos hl]
      exact .none b.selection.dimension
    · rw [if_neg hl]
      exact .same

theorem showAll_thins (b : Browser) : Thins b b.showAll.1 := by
  unfold showAll
  dsimp only
  split <;> exact .same

theorem groupByTime_thins (b : Browser) : Thins b b.groupByTime.1 := by
  unfold groupByTime
  split
  · exact .noRows _
  · exact .same

theorem openMessage_thins (b : Browser) (fromThread : Bool) :
    Thins b (b.openMessage fromThread).1 := by
  unfold openMessage
  dsimp only
  split <;> exact .same

theorem openThread_thins (b : Browser) : Thins b b.openThread.1 := by
  unfold openThread
  split <;> exact .same

/-- Marks that would come under another dimension are dropped. -/
theorem resume_thins (b : Browser) (crumb : Crumb) (rest : List Crumb) :
    Thins b (b.resume crumb rest) := by
  show b.selection.Thinned (retagFor b.selection (b.resume crumb rest).view)
  unfold retagFor
  split
  · exact .noRows _
  · exact .same

theorem goBack_thins (b : Browser) : Thins b b.goBack.1 := by
  cases hc : b.crumbs with
  | nil =>
    unfold goBack
    rw [hc]
    exact .same
  | cons crumb rest =>
    rw [goBack_eq hc]
    split
    · exact resume_thins b crumb rest
    · have hs := reload_standing (b.resume crumb rest)
      simp only [standing, Prod.mk.injEq] at hs
      unfold Thins
      rw [hs.2.2.2.2.2.2.2]
      exact resume_thins b crumb rest

theorem setAttachmentsOnly_thins (b : Browser) (only : Bool) :
    Thins b ({ b with dialog := none }.setAttachmentsOnly only).1 := by
  have hs := reload_standing { b with
    dialog := none
    attachmentsOnly := only
    view := { b.view with filter := { b.view.filter with attachmentsOnly := only } } }
  simp only [standing, Prod.mk.injEq] at hs
  exact .of_same hs.2.2.2.2.2.2.2

theorem pressTime_thins (b : Browser) : Thins b b.pressTime.1 := by
  unfold pressTime
  split
  · exact .same
  · split
    · exact .same
    · exact .noRows _

theorem exportChosen_thins (b : Browser) (chosen : OrdSet Nat) :
    Thins b ({ b with dialog := none }.exportChosen chosen).1 := by
  unfold exportChosen
  split
  · exact .same
  · dsimp only
    split <;> exact .same

theorem openExport_thins (b : Browser) : Thins b b.openExport.1 := by
  unfold openExport
  split <;> exact .same


/-- Marks are made only where the keys go to rows or to a list. -/
theorem KeyStep.thins (h : KeyStep b s) :
    Thins b s.1 ∨ (b.Free ∧ b.view.level.isListed = true) := by
  cases h with
  | chooseAccount => exact .inl (.none _)
  | chooseScope => exact .inl (setAttachmentsOnly_thins b _)
  | chooseFiles => exact .inl (exportChosen_thins b _)
  | cancelLine => exact .inl (cancelSearch_sameButQuery b).thins
  | commitLine => exact .inl (commitSearch_sameButQuery b).thins
  | toggleMode => exact .inl (toggleMode_sameButQuery b).thins
  | find input k => exact .inl (.of_standing (pressInFind_standing b input k))
  | moveCursor delta => exact .inl (.of_standing (moveCursor_standing b delta))
  | pageDown rows => exact .inl (.of_standing (pageDown_standing b rows))
  | toStart => exact .inl (.of_standing (toStart_standing b))
  | toEnd => exact .inl (.of_standing (toEnd_standing b))
  | openMessage fromThread => exact .inl (openMessage_thins b fromThread)
  | openThread => exact .inl (openThread_thins b)
  | goBack => exact .inl (goBack_thins b)
  | turnMessage delta => exact .inl (.of_standing (turnMessage_standing b delta))
  | stepHit forward => exact .inl (.of_standing (stepHit_standing b forward))
  | openExport => exact .inl (openExport_thins b)
  | drill hb hl | showAll hb hl | turnDimension _ hb hl | pressTime hb hl =>
    exact .inr ⟨hb, isListed_of_isGrouped hl⟩
  | groupBy hb hl | groupByTime hb hl | goToTop hb hl => exact .inr ⟨hb, by rw [hl]; rfl⟩
  | nextSort hb hl | flipSort hb hl | openSearch hb hl | cancelSearch hb hl | toggleMark hb hl
  | markVisible hb hl | clearMarks hb hl | stageMarked _ hb hl | askAccount hb hl
  | askScope hb hl => exact .inr ⟨hb, hl⟩
  | _ => exact .inl .same

/-! ## keys that make marks -/

/-- With nothing marked, `D` marks the row under the cursor before it asks for the batch. -/
inductive Marking (b : Browser) : Event → Selection → Prop where
  | current (hf : b.Free) (hl : b.view.level.isListed = true) :
      Marking b (.key (.char ' ')) b.toggleMark.selection
  | visible (hf : b.Free) (hl : b.view.level.isListed = true) :
      Marking b (.key (.char 'S')) b.markVisible.selection
  | staged (hf : b.Free) (hl : b.view.level.isListed = true) (hn : b.selection.isEmpty = true) :
      Marking b (.key (.char 'D')) b.toggleMark.selection

/-- the marks after a step, and where they come from -/
def MarksAfter (b : Browser) (e : Event) (c : Browser) : Prop :=
  Thins b c ∨ Marking b e c.selection

theorem Thins.marks (h : Thins b c) : MarksAfter b e c := .inl h

theorem stageMarked_selection (b : Browser) (orCurrent : Bool) :
    (b.stageMarked orCurrent).1.selection =
      if orCurrent && b.selection.isEmpty then b.toggleMark.selection else b.selection := by
  unfold stageMarked
  dsimp only
  split
  · split <;> rfl
  · split <;> rfl

theorem pressInMotion_standing (h : b.pressInMotion? k = some s) :
    s.1.standing = b.standing := by
  unfold pressInMotion? at h
  split at h <;> cases h
  · exact moveCursor_standing b _
  · exact moveCursor_standing b _
  · exact moveCursor_standing b _
  · exact moveCursor_standing b _
  · exact pageDown_standing b _
  · exact pageDown_standing b _
  · exact moveCursor_standing b _
  · exact moveCursor_standing b _
  · exact toStart_standing b
  · exact toEnd_standing b

theorem pressInEither_marks (hf : b.Free) (hl : b.view.level.isListed = true) (k : Key) :
    MarksAfter b (.key k) (b.pressInEither k).1 := by
  unfold pressInEither
  split
  · exact .inr (.current hf hl)
  · exact .inr (.visible hf hl)
  · exact .inl (.none b.selection.dimension)
  · exact .inl (.of_same (stageMarked_selection b false))
  · have hs := stageMarked_selection b true
    rw [Bool.true_and] at hs
    split at hs
    · rename_i hn
      unfold MarksAfter
      rw [hs]
      exact .inr (.staged hf hl hn)
    · exact .inl (.of_same hs)
  all_goals exact .inl .same

theorem pressInGroups_marks (hf : b.Free) (hl : b.view.level.isListed = true) (k : Key) :
    MarksAfter b (.key k) (b.pressInGroups k).1 := by
  unfold pressInGroups
  split
  · exact (drill_thins b).marks
  · split
    · exact (goBack_thins b).marks
    · split
      · exact .inl .same
      · exact (cancelSearch_sameButQuery b).thins.marks
  · exact (showAll_thins b).marks
  · exact .inl (.noRows _)
  · exact .inl (.noRows _)
  · exact .inl (.noRows _)
  · exact (pressTime_thins b).marks
  · exact .inl (.of_standing (nextSort_standing b))
  · exact .inl (.of_standing (flipSort_standing b))
  · exact .inl (.of_standing (flipSort_standing b))
  · exact .inl (.of_standing (openSearch_standing b))
  · exact pressInEither_marks hf hl k

theorem pressInList_marks (hf : b.Free) (hl : b.view.level.isListed = true) (k : Key) :
    MarksAfter b (.key k) (b.pressInList k).1 := by
  unfold pressInList
  split
  · exact (openMessage_thins b false).marks
  · split
    · exact (goBack_thins b).marks
    · exact (cancelSearch_sameButQuery b).thins.marks
  · split
    · exact .inl (.noRows _)
    · exact .inl .same
  · split
    · exact .inl (.noRows _)
    · exact .inl (.none _)
  · exact (groupByTime_thins b).marks
  · exact (openThread_thins b).marks
  · exact .inl (.of_standing (nextSort_standing b))
  · exact .inl (.of_standing (flipSort_standing b))
  · exact .inl (.of_standing (flipSort_standing b))
  · exact .inl (.of_standing (openSearch_standing b))
  · exact pressInEither_marks hf hl k

theorem press_marks (b : Browser) (k : Key) : MarksAfter b (.key k) (b.press k).1 := by
  rcases (press_keyStep b k).thins with h | ⟨hf, hl⟩
  · exact h.marks
  · rw [press_of_free hf]
    split
    · exact .inl .same
    · unfold pressOnScreen
      split
      · rename_i hs
        exact .inl (.of_standing (pressInMotion_standing hs))
      · unfold pressInLevel
        split
        · exact pressInGroups_marks hf hl k
        · exact pressInGroups_marks hf hl k
        · exact pressInList_marks hf hl k
        · rename_i h
          rw [h] at hl; cases hl
        · rename_i h
          rw [h] at hl; cases hl

/-- **A step makes marks where the keys go to rows or to a list, or drops some at most.** -/
theorem update_marks (b : Browser) (e : Event) : MarksAfter b e (b.update e).1 := by
  cases hn : e.isNews with
  | true =>
    obtain ⟨c, hc, hs, -⟩ := update_news b hn
    rw [hc]
    exact .inl (.of_standing hs)
  | false =>
    cases e with
    | key k => exact press_marks b k
    | searchTick query token => exact (ticked_sameButQuery b query token).thins.marks
    | statsLoaded result => cases result <;> exact .inl .same
    | manifestBuilt result =>
      refine .inl (.of_same ?_)
      show (b.manifestBuilt result).1.selection = _
      unfold manifestBuilt
      dsimp only
      split <;> rfl
    | manifestSaved result =>
      show MarksAfter b _ (b.manifestSaved result).1
      unfold manifestSaved
      dsimp only
      split
      · exact .inl (.none b.selection.dimension)
      · exact .inl .same
    | exportFinished result =>
      refine .inl (.of_same ?_)
      show (b.exportFinished result).1.selection = _
      unfold exportFinished
      dsimp only
      split <;> rfl
    | _ => cases hn

/-! ## sessions -/

/-- A step of the session was as `A` says, and `P` has held since. -/
def EverSince (c : Config) (es : List Event) (A : Browser → Event → Prop) (P : Browser → Prop) :
    Prop :=
  ∃ before e after, es = before ++ e :: after ∧ A (session c before).1 e ∧
    ∀ mid, mid <+: after → P (session c (before ++ e :: mid)).1

variable {cfg : Config} {es : List Event} {A : Browser → Event → Prop} {P : Browser → Prop}

theorem EverSince.concat (h : EverSince cfg es A P) (hp : P (session cfg (es ++ [e])).1) :
    EverSince cfg (es ++ [e]) A P := by
  obtain ⟨before, f, after, rfl, ha, hm⟩ := h
  refine ⟨before, f, after ++ [e], by simp, ha, fun mid hmid => ?_⟩
  rcases List.prefix_concat_iff.1 hmid with rfl | hmid
  · rw [show before ++ f :: (after ++ [e]) = before ++ f :: after ++ [e] by simp]
    exact hp
  · exact hm mid hmid

theorem everSince_of_holds (hl : ¬ P (launch cfg).1)
    (hs : ∀ b e, P (update b e).1 → P b ∨ A b e) (h : P (session cfg es).1) :
    EverSince cfg es A P := by
  induction es using List.reverseRecOn with
  | nil => exact absurd h hl
  | append_singleton es e ih =>
    rcases hs (session cfg es).1 e (by rwa [← session_concat]) with hp | ha
    · exact (ih hp).concat h
    · refine ⟨es, e, [], rfl, ha, fun mid hmid => ?_⟩
      rw [List.prefix_nil.1 hmid]
      exact h

end Browser
end MailBrowser
