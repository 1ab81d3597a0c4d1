import MailBrowser.Proofs.Browser.KeyStep
import MailBrowser.Proofs.Requests.Owed

/-!
# Work that keys wait for

Batches and exports are built and written one at a time, and meanwhile keys do nothing.

* `Effect.isJob`, `Event.isReport`   the work, and what tells that it is done;
* `Plain`          a step that begins no work, and opens or shuts no dialog;
* `Onward`         what keys do where no work goes on and no batch is to be confirmed;
* `AtWork`         the work that is owed, in the eyes of the browser;
* `Reported`       a run in which every report is of work that was owed;
* `session_atWork` work is owed exactly while the browser says that it is busy.
-/

namespace MailBrowser

def Effect.isJob : Effect → Bool
  | .buildManifest _ | .saveManifest _ | .exportAttachments _ _ _ => true
  | _ => false

def Event.isReport : Event → Bool
  | .manifestBuilt _ | .manifestSaved _ | .exportFinished _ => true
  | _ => false

def jobs (xs : List Effect) : List Effect := xs.filter Effect.isJob

theorem jobs_append (xs ys : List Effect) : jobs (xs ++ ys) = jobs xs ++ jobs ys :=
  List.filter_append ..

theorem Outcome.isReport {x : Effect} {e : Event} (h : Outcome x e) : e.isReport = x.isJob := by
  cases h <;> rfl

namespace Browser

/-- the batch that is to be confirmed -/
def confirming? (b : Browser) : Option StagedBatch :=
  match b.dialog with
  | some (.deletion staged) => some staged
  | _ => none

theorem confirming_iff {b : Browser} {s : StagedBatch} :
    b.confirming? = some s ↔ b.dialog = some (.deletion s) := by
  unfold confirming?
  split
  · rename_i h
    rw [h, Option.some.injEq, Option.some.injEq, Dialog.deletion.injEq]
  · rename_i h
    constructor
    · intro hs; cases hs
    · intro hs; exact absurd hs (h s)

/-! ## steps that begin no work -/

structure Plain (b : Browser) (s : Step) : Prop where
  busy : s.1.busy = b.busy
  dialog : s.1.dialog = b.dialog
  jobs : jobs s.2 = []

variable {b c : Browser}

theorem Plain.after {s : Step} (h : Plain c s) (hb : c.busy = b.busy) (hd : c.dialog = b.dialog) :
    Plain b s := ⟨h.busy.trans hb, h.dialog.trans hd, h.jobs⟩

variable (b)

theorem reload_plain : Plain b b.reload := by
  unfold reload
  split
  · exact ⟨rfl, rfl, rfl⟩
  · exact ⟨rfl, rfl, rfl⟩
  · split <;> exact ⟨rfl, rfl, rfl⟩
  · exact ⟨rfl, rfl, rfl⟩
  · split <;> exact ⟨rfl, rfl, rfl⟩

theorem loadMore_plain : Plain b b.loadMore := by
  unfold loadMore
  dsimp only
  split <;> exact ⟨rfl, rfl, rfl⟩

theorem loadMoreDeep_plain : Plain b b.loadMoreDeep := by
  unfold loadMoreDeep
  dsimp only
  split <;> exact ⟨rfl, rfl, rfl⟩

/-! ### cursors -/

theorem moveCursor_plain (delta : Int) : Plain b (b.moveCursor delta) := by
  unfold moveCursor
  split
  · unfold scrollReading
    dsimp only
    split
    · exact ⟨rfl, rfl, rfl⟩
    · split <;> exact ⟨rfl, rfl, rfl⟩
  · exact ⟨rfl, rfl, rfl⟩
  · exact (loadMore_plain _).after rfl rfl

theorem toStart_plain : Plain b b.toStart := by
  unfold toStart
  split <;> exact ⟨rfl, rfl, rfl⟩

theorem toEnd_plain : Plain b b.toEnd := by
  unfold toEnd
  split
  · exact ⟨rfl, rfl, rfl⟩
  · exact ⟨rfl, rfl, rfl⟩
  · exact (loadMore_plain _).after rfl rfl

theorem pageDown_plain (rows : Nat) : Plain b (b.pageDown rows) := by
  have hm := moveCursor_plain b rows
  unfold pageDown
  split
  · exact loadMoreDeep_plain b
  · dsimp only
    split
    · exact (loadMoreDeep_plain _).after hm.busy hm.dialog
    · exact hm

theorem showHit_plain : Plain b b.showHit.still := by
  unfold showHit
  split <;> exact ⟨rfl, rfl, rfl⟩

theorem stepHit_plain (forward : Bool) : Plain b (b.stepHit forward).still := by
  unfold stepHit
  dsimp only
  split
  · exact ⟨rfl, rfl, rfl⟩
  · exact (showHit_plain _).after rfl rfl

theorem pressInFind_plain (input : String) (k : Key) : Plain b (b.pressInFind input k).still := by
  unfold pressInFind
  split
  · unfold commitFind
    exact (showHit_plain _).after rfl rfl
  all_goals exact ⟨rfl, rfl, rfl⟩

/-! ### from view to view -/

theorem drill_plain : Plain b b.drill := by
  unfold drill
  split <;> exact ⟨rfl, rfl, rfl⟩

theorem showAll_plain : Plain b b.showAll := by
  unfold showAll
  dsimp only
  split <;> exact ⟨rfl, rfl, rfl⟩

theorem groupByTime_plain : Plain b b.groupByTime := by
  unfold groupByTime
  split <;> exact ⟨rfl, rfl, rfl⟩

theorem openMessage_plain (fromThread : Bool) : Plain b (b.openMessage fromThread) := by
  unfold openMessage
  dsimp only
  split <;> exact ⟨rfl, rfl, rfl⟩

theorem turnMessage_plain (delta : Int) : Plain b (b.turnMessage delta) := by
  unfold turnMessage
  dsimp only
  split
  · exact ⟨rfl, rfl, rfl⟩
  · split
    · exact ⟨rfl, rfl, rfl⟩
    · split <;> exact ⟨rfl, rfl, rfl⟩

theorem openThread_plain : Plain b b.openThread := by
  unfold openThread
  split <;> exact ⟨rfl, rfl, rfl⟩

theorem goBack_plain : Plain b b.goBack := by
  unfold goBack
  split
  · exact ⟨rfl, rfl, rfl⟩
  · dsimp only
    split
    · exact ⟨rfl, rfl, rfl⟩
    · exact (reload_plain _).after rfl rfl

theorem selectAccount_plain (choice : Nat) : Plain b (b.selectAccount choice) := ⟨rfl, rfl, rfl⟩

theorem setAttachmentsOnly_plain (only : Bool) : Plain b (b.setAttachmentsOnly only) := by
  have h : Plain b { b with
      attachmentsOnly := only
      view := { b.view with filter := { b.view.filter with attachmentsOnly := only } } }.reload :=
    (reload_plain _).after rfl rfl
  refine ⟨h.busy, h.dialog, ?_⟩
  unfold setAttachmentsOnly
  dsimp only
  split
  · rw [jobs_append, h.jobs]
    rfl
  · exact h.jobs

theorem pressTime_plain : Plain b b.pressTime := by
  unfold pressTime
  split
  · exact ⟨rfl, rfl, rfl⟩
  · split <;> exact ⟨rfl, rfl, rfl⟩

theorem nextSort_plain : Plain b b.nextSort := by
  unfold nextSort
  split
  · exact ⟨rfl, rfl, rfl⟩
  · exact ⟨rfl, rfl, rfl⟩
  · exact (reload_plain _).after rfl rfl
  · exact ⟨rfl, rfl, rfl⟩

theorem flipSort_plain : Plain b b.flipSort := by
  unfold flipSort
  split
  · exact ⟨rfl, rfl, rfl⟩
  · exact ⟨rfl, rfl, rfl⟩
  · exact (reload_plain _).after rfl rfl
  · exact ⟨rfl, rfl, rfl⟩

/-! ### the search line -/

theorem openSearch_plain : Plain b b.openSearch := by
  unfold openSearch
  split <;> exact ⟨rfl, rfl, rfl⟩

theorem clearSearch_plain : Plain b b.clearSearch := by
  unfold clearSearch
  dsimp only
  split <;> exact ⟨rfl, rfl, rfl⟩

theorem cancelSearch_plain : Plain b b.cancelSearch := by
  unfold cancelSearch
  dsimp only
  split
  · have h := clearSearch_plain
      (b.withSearch ({ b.search with active := false, input := "" } : SearchSession).bumpToken)
    exact ⟨h.busy, h.dialog, h.jobs⟩
  · split
    · exact ⟨rfl, rfl, rfl⟩
    · split <;> exact ⟨rfl, rfl, rfl⟩

theorem applyQuery_plain (query : String) : Plain b (b.applyQuery query) := by
  unfold applyQuery
  dsimp only
  split
  · split
    · exact (clearSearch_plain _).after rfl rfl
    · exact ⟨rfl, rfl, rfl⟩
  all_goals exact ⟨rfl, rfl, rfl⟩

theorem toggleMode_plain : Plain b b.toggleMode := by
  unfold toggleMode
  dsimp only
  split
  · split <;> exact ⟨rfl, rfl, rfl⟩
  · exact ⟨rfl, rfl, rfl⟩

theorem commitSearch_plain : Plain b b.commitSearch := by
  unfold commitSearch
  dsimp only
  split
  · exact cancelSearch_plain b
  · split
    · exact ⟨rfl, rfl, rfl⟩
    · split <;> exact ⟨rfl, rfl, rfl⟩
    · split <;> exact ⟨rfl, rfl, rfl⟩
    · exact ⟨rfl, rfl, rfl⟩

/-! ### marks -/

theorem toggleMark_plain : Plain b b.toggleMark.still := by
  unfold toggleMark
  split
  · split <;> exact ⟨rfl, rfl, rfl⟩
  · split <;> exact ⟨rfl, rfl, rfl⟩
  · split <;> exact ⟨rfl, rfl, rfl⟩
  · exact ⟨rfl, rfl, rfl⟩

theorem markVisible_plain : Plain b b.markVisible.still := by
  unfold markVisible
  split <;> exact ⟨rfl, rfl, rfl⟩

/-! ## steps that begin work -/

/-- a key where no work goes on and no batch is to be confirmed -/
inductive Onward (s : Step) : Prop where
  | idle (hb : s.1.busy = none) (hc : s.1.confirming? = none) (hj : jobs s.2 = [])
  | begun (x : Effect) (hj : jobs s.2 = [x]) (hx : ∀ m, x ≠ .saveManifest m)
      (hb : s.1.busy.isSome = true) (hd : s.1.dialog = none)

variable {b}

theorem confirming_congr (h : c.dialog = b.dialog) : c.confirming? = b.confirming? := by
  unfold confirming?
  rw [h]

theorem confirming_none (h : b.dialog = none) : b.confirming? = none := by
  unfold confirming?
  rw [h]

theorem Plain.onward {s : Step} (h : Plain b s) (hi : b.busy = none) (hc : b.confirming? = none) :
    Onward s :=
  .idle (h.busy.trans hi) ((confirming_congr h.dialog).trans hc) h.jobs

/-- No dialog but the one for a batch leads to one for a batch. -/
theorem ask_onward {d e : Dialog} (hi : b.busy = none) (hc : b.confirming? = none)
    (hd : b.dialog = some d) (he : d.sameQuestion e) :
    Onward ({ b with dialog := none }.openDialog e) := by
  refine .idle hi ?_ rfl
  cases e with
  | deletion t =>
    cases d with
    | deletion s =>
      rw [confirming_iff.2 hd] at hc
      cases hc
    | _ => exact False.elim he
  | _ => rfl

theorem exportChosen_onward (hi : b.busy = none) (hd : b.dialog = none) (chosen : OrdSet Nat) :
    Onward (b.exportChosen chosen) := by
  have hc := confirming_none hd
  unfold exportChosen
  split
  · exact .idle hi hc rfl
  · dsimp only
    split
    · exact .idle hi hc rfl
    · exact .begun _ rfl (fun m h => by cases h) rfl hd

theorem stageMarked_onward (hb : b.Free) (orCurrent : Bool) : Onward (b.stageMarked orCurrent) := by
  have hm : Plain b (if orCurrent && b.selection.isEmpty then b.toggleMark else b).still := by
    split
    · exact toggleMark_plain b
    · exact ⟨rfl, rfl, rfl⟩
  unfold stageMarked
  dsimp only
  generalize (if orCurrent && b.selection.isEmpty then b.toggleMark else b) = c at hm
  have hd : c.dialog = none := hm.dialog.trans hb.noDialog
  split
  · exact .idle (hm.busy.trans hb.idle) (confirming_none hd) rfl
  · exact .begun _ rfl (fun m h => by cases h) rfl hd

theorem openExport_onward (hb : b.Free) : Onward b.openExport := by
  have hc := confirming_none hb.noDialog
  unfold openExport
  split
  · exact .idle hb.idle hc rfl
  · exact .idle hb.idle hc rfl
  · exact .idle hb.idle rfl rfl

theorem KeyStep.onward {s : Step} (h : KeyStep b s) (hi : b.busy = none)
    (hc : b.confirming? = none) : Onward s := by
  cases h with
  | still => exact .idle hi hc rfl
  | quit => exact .idle hi hc rfl
  | shut => exact .idle hi rfl rfl
  | leave => exact .idle hi rfl rfl
  | ask d e hd _ he => exact ask_onward hi hc hd he
  | save s hd =>
    rw [confirming_iff.2 hd] at hc
    cases hc
  | chooseAccount cursor => exact (selectAccount_plain _ cursor).onward hi rfl
  | chooseScope cursor => exact (setAttachmentsOnly_plain _ (cursor == 1)).onward hi rfl
  | chooseFiles cursor chosen =>
    exact exportChosen_onward (b := { b with dialog := none }) hi rfl chosen
  | cancelLine => exact (cancelSearch_plain b).onward hi hc
  | commitLine => exact (commitSearch_plain b).onward hi hc
  | toggleMode => exact (toggleMode_plain b).onward hi hc
  | typed => exact .idle hi hc rfl
  | find input k => exact (pressInFind_plain b input k).onward hi hc
  | moveCursor delta => exact (moveCursor_plain b delta).onward hi hc
  | pageDown rows => exact (pageDown_plain b rows).onward hi hc
  | toStart => exact (toStart_plain b).onward hi hc
  | toEnd => exact (toEnd_plain b).onward hi hc
  | drill => exact (drill_plain b).onward hi hc
  | showAll => exact (showAll_plain b).onward hi hc
  | groupBy => exact .idle hi hc rfl
  | groupByTime => exact (groupByTime_plain b).onward hi hc
  | openMessage fromThread => exact (openMessage_plain b fromThread).onward hi hc
  | openThread => exact (openThread_plain b).onward hi hc
  | goBack => exact (goBack_plain b).onward hi hc
  | goToTop => exact .idle hi hc rfl
  | turnDimension => exact .idle hi hc rfl
  | pressTime => exact (pressTime_plain b).onward hi hc
  | nextSort => exact (nextSort_plain b).onward hi hc
  | flipSort => exact (flipSort_plain b).onward hi hc
  | openSearch => exact (openSearch_plain b).onward hi hc
  | cancelSearch => exact (cancelSearch_plain b).onward hi hc
  | toggleMark => exact (toggleMark_plain b).onward hi hc
  | markVisible => exact (markVisible_plain b).onward hi hc
  | clearMarks => exact .idle hi hc rfl
  | stageMarked orCurrent hb => exact stageMarked_onward hb orCurrent
  | turnMessage delta => exact (turnMessage_plain b delta).onward hi hc
  | openFind => exact .idle hi hc rfl
  | stepHit forward => exact (stepHit_plain b forward).onward hi hc
  | clearFind => exact .idle hi hc rfl
  | openExport hb => exact openExport_onward hb
  | askAccount => exact .idle hi rfl rfl
  | askScope => exact .idle hi rfl rfl
  | askHelp => exact .idle hi rfl rfl
  | askQuit => exact .idle hi rfl rfl

/-! ## keys that meet work, or a batch to be confirmed -/

theorem press_busy (h : b.busy.isSome = true) (k : Key) :
    b.press k = b.quit ∨ b.press k = b.still := by
  unfold press
  split
  · exact .inl rfl
  · exact .inr rfl

/-- A batch is saved on yes, and dropped on no; other keys leave the dialog as it is. -/
theorem press_confirming {d : StagedBatch} (hi : b.busy = none)
    (hd : b.dialog = some (.deletion d)) (k : Key) :
    (isYes k = true ∧ b.press k = ({ b with dialog := none, busy := some "Saving manifest..." },
        [.saveManifest d.manifest])) ∨
      (isNo k = true ∧ b.press k = { b with dialog := none }.still) ∨
      (isNo k = false ∧ (b.press k = b.quit ∨ b.press k = b.still)) := by
  by_cases hk : k = .ctrl 'c'
  · subst hk
    exact .inr (.inr ⟨rfl, .inl rfl⟩)
  · have hp : b.press k = b.pressInDialog (.deletion d) k := by
      unfold press
      rw [if_neg hk, if_neg (by rw [hi]; decide), hd]
    rw [hp]
    by_cases hy : isYes k = true
    · exact .inl ⟨hy, if_pos hy⟩
    · by_cases hn : isNo k = true
      · exact .inr (.inl ⟨hn, (if_neg hy).trans (if_pos hn)⟩)
      · refine .inr (.inr ⟨by simpa using hn, .inr ?_⟩)
        refine ((if_neg hy).trans (if_neg hn)).trans ?_
        show (({ b with dialog := some (.deletion d) } : Browser), []) = (b, [])
        rw [← hd]

/-! ## answers and ticks -/

/-- moreover nothing is marked or unmarked -/
structure Aside (b : Browser) (s : Step) : Prop extends Plain b s where
  selection : s.1.selection = b.selection

theorem Aside.of_rfl {s : Step}
    (h : (s.1.busy, s.1.dialog, jobs s.2, s.1.selection) = (b.busy, b.dialog, [], b.selection)) :
    Aside b s := by
  simp only [Prod.mk.injEq] at h
  obtain ⟨hb, hd, hj, hs⟩ := h
  exact ⟨⟨hb, hd, hj⟩, hs⟩

theorem rowsArrived_aside (id : Nat) (r : Answer (List Row)) :
    Aside b (b.rowsArrived id r).still := by
  unfold rowsArrived
  split
  · cases r <;> exact .of_rfl rfl
  · exact .of_rfl rfl

theorem messagesArrived_aside (id : Nat) (r : Answer (List Summary)) :
    Aside b (b.messagesArrived id r).still := by
  unfold messagesArrived
  split
  · dsimp only
    split
    · exact .of_rfl rfl
    · cases r <;> exact .of_rfl rfl
  · exact .of_rfl rfl

theorem threadArrived_aside (id : Nat) (r : Answer (List Summary)) :
    Aside b (b.threadArrived id r).still := by
  unfold threadArrived
  split
  · cases r <;> exact .of_rfl rfl
  · exact .of_rfl rfl

theorem detailArrived_aside (id : Nat) (r : Answer (Option Detail)) :
    Aside b (b.detailArrived id r).still := by
  unfold detailArrived
  split
  · dsimp only
    split <;> exact .of_rfl rfl
  · exact .of_rfl rfl

theorem searchArrived_aside (id : Nat) (append : Bool) (r : Answer SearchPage) :
    Aside b (b.searchArrived id append r).still := by
  unfold searchArrived
  split
  · cases r <;> exact .of_rfl rfl
  · exact .of_rfl rfl

theorem clearSearch_selection : b.clearSearch.1.selection = b.selection := by
  unfold clearSearch
  dsimp only
  split <;> rfl

theorem applyQuery_aside (query : String) : Aside b (b.applyQuery query) := by
  refine ⟨applyQuery_plain b query, ?_⟩
  unfold applyQuery
  dsimp only
  split
  · split
    · exact clearSearch_selection
    · rfl
  all_goals rfl

theorem ticked_aside (query : String) (token : Nat) : Aside b (b.ticked query token) := by
  unfold ticked
  split
  · exact applyQuery_aside _
  · exact .of_rfl rfl

theorem expireFlash_aside (generation : Nat) : Aside b (b.expireFlash generation).still := by
  unfold expireFlash
  split <;> exact .of_rfl rfl

/-- What is neither a key nor a report has nothing to do with work, dialogs or marks. -/
theorem update_aside {e : Event} (hk : ∀ k, e ≠ .key k) (hr : e.isReport = false) :
    Aside b (b.update e) := by
  cases e with
  | key k => exact absurd rfl (hk k)
  | resize height => exact .of_rfl rfl
  | rowsLoaded id r => exact rowsArrived_aside id r
  | messagesLoaded id r => exact messagesArrived_aside id r
  | threadLoaded id r => exact threadArrived_aside id r
  | detailLoaded id r => exact detailArrived_aside id r
  | searchLoaded id append r => exact searchArrived_aside id append r
  | searchTick query token => exact ticked_aside query token
  | flashExpired generation => exact expireFlash_aside generation
  | statsLoaded r => cases r <;> exact .of_rfl rfl
  | accountsLoaded r => cases r <;> exact .of_rfl rfl
  | manifestBuilt => cases hr
  | manifestSaved => cases hr
  | exportFinished => cases hr

/-! ## the work that is owed -/

/-- Either there is none, or there is one job and the keys wait for it. -/
inductive AtWork (b : Browser) (work : List Effect) : Prop where
  | idle (hw : work = []) (hb : b.busy = none)
  | busy (x : Effect) (hw : work = [x]) (hb : b.busy.isSome = true) (hd : b.dialog = none)

/-- Each report is of work that was asked for and has not been reported before. -/
def Reported (b : Browser) (waiting : List Effect) : List Event → Prop
  | [] => True
  | e :: es =>
    (e.isReport = true → ∃ x ∈ waiting, Outcome x e) ∧
      Reported (b.update e).1 (settle waiting e ++ (b.update e).2) es

instance decidableReported :
    (b : Browser) → (waiting : List Effect) → (es : List Event) →
      Decidable (Reported b waiting es)
  | _, _, [] => inferInstanceAs (Decidable True)
  | b, waiting, e :: es =>
    have := decidableReported (b.update e).1 (settle waiting e ++ (b.update e).2) es
    inferInstanceAs (Decidable ((e.isReport = true → ∃ x ∈ waiting, Outcome x e) ∧
      Reported (b.update e).1 (settle waiting e ++ (b.update e).2) es))

variable {waiting : List Effect} {e : Event}

/-- What is no report settles no work. -/
theorem jobs_settle_aside (he : e.isReport = false) (waiting : List Effect) :
    jobs (settle waiting e) = jobs waiting := by
  induction waiting with
  | nil => rfl
  | cons x xs ih =>
    by_cases ho : Outcome x e
    · have hx : x.isJob = false := by rw [← ho.isReport]; exact he
      have hs : settle (x :: xs) e = xs := List.eraseP_cons_of_pos (by simpa using ho)
      have hj : jobs (x :: xs) = jobs xs := List.filter_cons_of_neg (by rw [hx]; decide)
      rw [hs, hj]
    · have hs : settle (x :: xs) e = x :: settle xs e := List.eraseP_cons_of_neg (by simpa using ho)
      have ih : (settle xs e).filter Effect.isJob = xs.filter Effect.isJob := ih
      rw [hs]
      show (x :: settle xs e).filter Effect.isJob = (x :: xs).filter Effect.isJob
      rw [List.filter_cons, List.filter_cons, ih]

/-- A report settles the one job that it is of. -/
theorem jobs_settle_report {x : Effect} (he : e.isReport = true) (hw : jobs waiting = [x])
    (ho : ∃ y ∈ waiting, Outcome y e) : Outcome x e ∧ jobs (settle waiting e) = [] := by
  obtain ⟨y, hy, hye⟩ := ho
  have hyx : y ∈ jobs waiting := List.mem_filter.2 ⟨hy, by rw [← hye.isReport]; exact he⟩
  rw [hw] at hyx
  have hxe : Outcome x e := by rw [← List.mem_singleton.1 hyx]; exact hye
  refine ⟨hxe, ?_⟩
  have hj : ∀ z : Effect, (decide (Outcome z e) && z.isJob) = decide (Outcome z e) := by
    intro z
    by_cases hz : Outcome z e
    · rw [← hz.isReport, he, Bool.and_true]
    · rw [decide_eq_false hz, Bool.false_and]
  have hs := List.eraseP_filter (p := fun z => decide (Outcome z e)) (f := Effect.isJob)
    (l := waiting)
  simp only [hj] at hs
  show (waiting.eraseP _).filter Effect.isJob = []
  rw [← hs]
  show (jobs waiting).eraseP _ = []
  rw [hw, List.eraseP_cons_of_pos (by simpa using hxe)]

/-- Where no work is owed, nothing is reported. -/
theorem not_report (hw : jobs waiting = []) (ho : e.isReport = true → ∃ x ∈ waiting, Outcome x e) :
    e.isReport = false := by
  refine Bool.eq_false_iff.2 fun he => ?_
  obtain ⟨x, hx, hxe⟩ := ho he
  have hm : x ∈ jobs waiting := List.mem_filter.2 ⟨hx, by rw [← hxe.isReport]; exact he⟩
  rw [hw] at hm
  cases hm

/-- A report ends the work that it is of. -/
theorem report_idle (he : e.isReport = true) :
    (b.update e).1.busy = none ∧ jobs (b.update e).2 = [] := by
  cases e with
  | manifestBuilt r =>
    show (b.manifestBuilt r).1.busy = none ∧ jobs (b.manifestBuilt r).2 = []
    unfold manifestBuilt
    dsimp only
    split <;> exact ⟨rfl, rfl⟩
  | manifestSaved r =>
    show (b.manifestSaved r).1.busy = none ∧ jobs (b.manifestSaved r).2 = []
    cases r <;> exact ⟨rfl, rfl⟩
  | exportFinished r =>
    show (b.exportFinished r).1.busy = none ∧ jobs (b.exportFinished r).2 = []
    cases r <;> exact ⟨rfl, rfl⟩
  | _ => cases he

theorem Onward.atWork {s : Step} (h : Onward s) : AtWork s.1 (jobs s.2) := by
  cases h with
  | idle hb hc hj => exact .idle hj hb
  | begun x hj hx hb hd => exact .busy x hj hb hd

theorem press_atWork (h : AtWork b (jobs waiting)) (k : Key) :
    AtWork (b.press k).1 (jobs waiting ++ jobs (b.press k).2) := by
  cases h with
  | busy x hw hb hd =>
    rcases press_busy hb k with hp | hp
    · rw [hp, hw]; exact .busy x rfl hb hd
    · rw [hp, hw]; exact .busy x rfl hb hd
  | idle hw hb =>
    rw [hw, List.nil_append]
    cases hc : b.confirming? with
    | none => exact ((press_keyStep b k).onward hb hc).atWork
    | some d =>
      rcases press_confirming hb (confirming_iff.1 hc) k with ⟨-, hp⟩ | ⟨-, hp⟩ | ⟨-, hp | hp⟩
      · rw [hp]; exact .busy (.saveManifest d.manifest) rfl rfl rfl
      · rw [hp]; exact .idle rfl hb
      · rw [hp]; exact .idle rfl hb
      · rw [hp]; exact .idle rfl hb

theorem update_atWork (h : AtWork b (jobs waiting))
    (ho : e.isReport = true → ∃ x ∈ waiting, Outcome x e) :
    AtWork (b.update e).1 (jobs (settle waiting e ++ (b.update e).2)) := by
  rw [jobs_append]
  by_cases hr : e.isReport = true
  · cases h with
    | idle hw hb =>
      rw [not_report hw ho] at hr
      cases hr
    | busy x hw hb hd =>
      obtain ⟨hi, hj⟩ := report_idle (b := b) hr
      exact .idle (by rw [(jobs_settle_report hr hw (ho hr)).2, hj]; rfl) hi
  · have hr : e.isReport = false := by simpa using hr
    rw [jobs_settle_aside hr]
    by_cases hk : ∃ k, e = .key k
    · obtain ⟨k, rfl⟩ := hk
      exact press_atWork h k
    · have ha := update_aside (b := b) (fun k he => hk ⟨k, he⟩) hr
      rw [ha.jobs, List.append_nil]
      cases h with
      | idle hw hb => exact .idle hw (ha.busy.trans hb)
      | busy x hw hb hd => exact .busy x hw (by rw [ha.busy]; exact hb) (ha.dialog.trans hd)

theorem run_atWork {es : List Event} (h : AtWork b (jobs waiting)) (hr : Reported b waiting es) :
    AtWork (b.run es).1 (jobs (b.owing waiting es)) := by
  induction es generalizing b waiting with
  | nil => exact h
  | cons e es ih => exact ih (update_atWork h hr.1) hr.2

theorem Reported.split {es fs : List Event} (h : Reported b waiting (es ++ fs)) :
    Reported b waiting es ∧ Reported (b.run es).1 (b.owing waiting es) fs := by
  induction es generalizing b waiting with
  | nil => exact ⟨trivial, h⟩
  | cons e es ih =>
    obtain ⟨he, hf⟩ := ih h.2
    exact ⟨⟨h.1, he⟩, hf⟩

/-- One job at most is owed, and exactly then the keys wait. -/
theorem session_atWork {c : Config} {es : List Event}
    (hr : Reported (launch c).1 (launch c).2 es) : AtWork (session c es).1 (jobs (owed c es)) :=
  run_atWork (.idle rfl rfl) hr

end Browser
end MailBrowser
