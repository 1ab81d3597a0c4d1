import MailBrowser.Proofs.Requests.Fits

/-!
# What steps do to lists and cursors

Of a view, its sight is the lists it holds and the places in them.  A step moves a place within its
list, empties a list, takes one from a snapshot, goes to another view, or takes in an answer.

* `Within`       a place in a list, or any place where there is no list;
* `Sight`        the lists of a view and the places in them, `View.sight` of a view;
* `scene`        the sight on screen, the crumbs and the list that is kept behind a search;
* `Shift`        all that steps do to a scene, answers apart; `KeyStep.shift` for all keys;
* `Sight.fill`   the sight after an answer that is shown;
* `update_shift` every step does one or the other;
* `Reachable.findShut`   so the find line is open over messages only.
-/

namespace MailBrowser

def Within {α : Type} (n : Nat) (xs : List α) : Prop := n < xs.length ∨ xs = []

structure Sight where
  level : Level
  rows : List Row
  messages : List Summary
  thread : List Summary
  row : Nat
  threadRow : Nat
  /-- the place of the message on screen -/
  index : Nat
  fromThread : Bool
  find : Find

def View.sight (v : View) : Sight where
  level := v.level
  rows := v.data.rows
  messages := v.data.messages
  thread := v.data.thread
  row := v.window.cursor
  threadRow := v.threadWindow.cursor
  index := v.readingIndex
  fromThread := v.readingFromThread
  find := v.find

theorem within_nil {α : Type} (n : Nat) : Within n ([] : List α) := .inr rfl

theorem within_zero {α : Type} (xs : List α) : Within 0 xs := by
  cases xs with
  | nil => exact .inr rfl
  | cons x xs => exact .inl (Nat.succ_pos _)

/-- a place brought back into a list -/
theorem within_min {α : Type} (n : Nat) (xs : List α) : Within (min n (xs.length - 1)) xs := by
  cases xs with
  | nil => exact .inr rfl
  | cons x xs =>
    refine .inl ?_
    rw [List.length_cons]
    omega

theorem within_stepIn {α : Type} (n : Nat) (delta : Int) (xs : List α) :
    Within (stepIn n delta xs.length) xs := by
  cases xs with
  | nil => exact .inr rfl
  | cons x xs => exact .inl (stepIn_lt (Nat.succ_pos _))

theorem within_last {α : Type} (xs : List α) : Within (xs.length - 1) xs := by
  cases xs with
  | nil => exact .inr rfl
  | cons x xs => exact .inl (Nat.lt_succ_self _)

namespace Sight

/-- The place is in the rows, or in the messages, that are on screen. -/
def RowWithin (s : Sight) (row : Nat) : Prop :=
  match s.level with
  | .groups | .subgroups => Within row s.rows
  | .list => Within row s.messages
  | .reading | .thread => True

/-- the list that the message on screen belongs to -/
def readingList (s : Sight) : List Summary := if s.fromThread then s.thread else s.messages

/-- what an answer does to a list and to the place in it -/
def fill (s : Sight) (limit : Nat) : Event → Sight
  | .rowsLoaded _ (.ok rows) => { s with rows, row := min s.row (rows.length - 1) }
  | .messagesLoaded _ (.ok messages) =>
    { s with messages, row := min s.row (messages.length - 1) }
  | .threadLoaded _ (.ok messages) =>
    { s with
      thread := messages.take limit
      threadRow := min s.threadRow ((messages.take limit).length - 1) }
  | .searchLoaded _ append (.ok page) =>
    { s with
      messages := if append then s.messages ++ page.messages else page.messages
      row := if append then s.row else 0 }
  | _ => s

end Sight

namespace Browser
open Text

def scene (b : Browser) : Sight × List Crumb × Option ListSnapshot :=
  (b.view.sight, b.crumbs, b.search.snapshot)

/-- The next hit to look at is among the hits, or nothing was done to them. -/
def HitKept (f g : Find) : Prop := (g.hit = f.hit ∧ g.hits = f.hits) ∨ Within g.hit g.hits

inductive Shift (b c : Browser) : Prop where
  | stay (hv : c.scene = b.scene)
  | forget (hv : c.scene = (b.view.sight, b.crumbs, none))
  /-- The list is kept behind a search. -/
  | keep (s : ListSnapshot) (hl : b.view.level = .list) (hm : s.messages = b.view.data.messages)
      (hr : s.cursor = b.view.window.cursor) (hv : c.scene = (b.view.sight, b.crumbs, some s))
  /-- The list that was kept is shown again. -/
  | retake (s : ListSnapshot) (hl : b.view.level = .list) (hs : b.search.snapshot = some s)
      (kept : Option ListSnapshot) (hk : kept = none ∨ kept = some s)
      (hv : c.scene = ({ b.view.sight with messages := s.messages, row := s.cursor }, b.crumbs, kept))
  | move (row : Nat) (hl : b.view.level.isListed = true) (hr : b.view.sight.RowWithin row)
      (hv : c.scene = ({ b.view.sight with row }, b.crumbs, b.search.snapshot))
  | moveInThread (row : Nat) (hl : b.view.level = .thread) (hr : Within row b.view.data.thread)
      (hv : c.scene = ({ b.view.sight with threadRow := row }, b.crumbs, b.search.snapshot))
  | empty (hl : b.view.level.isGrouped = true)
      (hv : c.scene = ({ b.view.sight with rows := [], row := 0 }, b.crumbs, b.search.snapshot))
  | find (f : Find) (hl : b.view.level = .reading ∨ b.view.find.input.isSome = true)
      (hf : HitKept b.view.find f)
      (hv : c.scene = ({ b.view.sight with find := f }, b.crumbs, b.search.snapshot))
  /-- another message on screen, or the same one, its place brought into the list -/
  | turn (index row threadRow : Nat) (f : Find) (hl : b.view.level = .reading)
      (hi : index < b.view.readingList.length) (hf : HitKept b.view.find f)
      (hv : c.scene = ({ b.view.sight with index, row, threadRow, find := f }, b.crumbs,
        b.search.snapshot))
  | enterList (hb : b.Free) (hl : b.view.level.isGrouped = true)
      (hv : c.scene = ({ b.view.sight with level := .list, messages := [], row := 0 },
        b.crumb :: b.crumbs, none))
  | enterRows (hb : b.Free) (hl : b.view.level = .list)
      (hv : c.scene = ({ b.view.sight with level := .subgroups, rows := [], row := 0 },
        b.crumb :: b.crumbs, none))
  | enterMessage (fromThread : Bool) (index : Nat) (hb : b.Free)
      (hl : b.view.level = if fromThread then .thread else .list)
      (hi : index < (if fromThread then b.view.data.thread else b.view.data.messages).length)
      (hv : c.scene = ({ b.view.sight with level := .reading, index, fromThread, find := {} },
        b.crumb :: b.crumbs, b.search.snapshot))
  | enterThread (hb : b.Free) (hl : b.view.level = .list ∨ b.view.level = .reading)
      (hv : c.scene = ({ b.view.sight with level := .thread, threadRow := 0, thread := [] },
        b.crumb :: b.crumbs, b.search.snapshot))
  | back (crumb : Crumb) (rest : List Crumb) (hc : b.crumbs = crumb :: rest)
      (hv : c.scene = ((resumeAfter b.view crumb.restore b.pageSize).sight, rest, none))
  | top (hv : c.scene = (({} : View).sight, [], none))

variable {b c d : Browser}

theorem Shift.congr (h : Shift b c) (hd : d.scene = c.scene) : Shift b d := by
  cases h with
  | stay hv => exact .stay (hd.trans hv)
  | forget hv => exact .forget (hd.trans hv)
  | keep s hl hm hr hv => exact .keep s hl hm hr (hd.trans hv)
  | retake s hl hs kept hk hv => exact .retake s hl hs kept hk (hd.trans hv)
  | move row hl hr hv => exact .move row hl hr (hd.trans hv)
  | moveInThread row hl hr hv => exact .moveInThread row hl hr (hd.trans hv)
  | empty hl hv => exact .empty hl (hd.trans hv)
  | find f hl hf hv => exact .find f hl hf (hd.trans hv)
  | turn index row threadRow f hl hi hf hv => exact .turn index row threadRow f hl hi hf (hd.trans hv)
  | enterList hb hl hv => exact .enterList hb hl (hd.trans hv)
  | enterRows hb hl hv => exact .enterRows hb hl (hd.trans hv)
  | enterMessage fromThread index hb hl hi hv =>
    exact .enterMessage fromThread index hb hl hi (hd.trans hv)
  | enterThread hb hl hv => exact .enterThread hb hl (hd.trans hv)
  | back crumb rest hc hv => exact .back crumb rest hc (hd.trans hv)
  | top hv => exact .top (hd.trans hv)

variable (b)

/-! ## loads -/

theorem reload_scene : b.reload.1.scene = b.scene := by
  have h := reload_samePlace b
  unfold scene
  rw [reload_view, h.crumbs, h.snapshot]

theorem loadMore_scene : b.loadMore.1.scene = b.scene := by
  unfold loadMore
  dsimp only
  split <;> rfl

theorem loadMoreDeep_scene : b.loadMoreDeep.1.scene = b.scene := by
  unfold loadMoreDeep
  dsimp only
  split <;> rfl

/-! ## cursors -/

variable {b} in
/-- a place that is in a list of any length is in the one that the cursor walks -/
theorem rowWithin_listLength {f : Nat → Nat}
    (hf : ∀ {α : Type} (xs : List α), Within (f xs.length) xs) :
    b.view.sight.RowWithin (f b.view.listLength) := by
  show match b.view.level with
    | .groups | .subgroups => Within (f b.view.listLength) b.view.data.rows
    | .list => Within (f b.view.listLength) b.view.data.messages
    | .reading | .thread => True
  unfold View.listLength
  cases b.view.level with
  | groups => exact hf b.view.data.rows
  | subgroups => exact hf b.view.data.rows
  | list => exact hf b.view.data.messages
  | reading => trivial
  | thread => trivial

theorem isListed_of_ne {l : Level} (hr : l ≠ .reading) (ht : l ≠ .thread) : l.isListed = true := by
  cases l with
  | reading => exact absurd rfl hr
  | thread => exact absurd rfl ht
  | _ => rfl

theorem scrollReading_scene (delta : Int) : (b.scrollReading delta).1.scene = b.scene := by
  unfold scrollReading
  dsimp only
  split
  · rfl
  · split <;> rfl

theorem moveCursor_shift (delta : Int) : Shift b (b.moveCursor delta).1 := by
  unfold moveCursor
  split
  · exact .stay (scrollReading_scene b delta)
  · rename_i hl
    exact .moveInThread _ hl (within_stepIn _ _ _) rfl
  · rename_i hr ht
    refine .move _ (isListed_of_ne hr ht) ?_ (loadMore_scene _)
    exact rowWithin_listLength (f := stepIn b.view.window.cursor delta) fun xs =>
      within_stepIn _ _ xs

theorem toStart_shift : Shift b b.toStart.1 := by
  unfold toStart
  split
  · exact .stay rfl
  · rename_i hl
    exact .moveInThread 0 hl (within_zero _) rfl
  · rename_i hr ht
    exact .move 0 (isListed_of_ne hr ht) (rowWithin_listLength (f := fun _ => 0) within_zero) rfl

theorem toEnd_shift : Shift b b.toEnd.1 := by
  unfold toEnd
  split
  · exact .stay rfl
  · rename_i hl
    exact .moveInThread _ hl (within_last _) rfl
  · rename_i hr ht
    refine .move _ (isListed_of_ne hr ht) ?_ (loadMore_scene _)
    exact rowWithin_listLength (f := fun n => n - 1) within_last

theorem pageDown_shift (rows : Nat) : Shift b (b.pageDown rows).1 := by
  have hm := moveCursor_shift b rows
  unfold pageDown
  split
  · exact .stay (loadMoreDeep_scene b)
  · dsimp only
    split
    · exact hm.congr (loadMoreDeep_scene _)
    · exact hm

/-! ## a message -/

theorem showHit_scene : b.showHit.scene = b.scene := by
  unfold showHit
  split <;> rfl

theorem stepHit_shift (forward : Bool) (hl : b.view.level = .reading) :
    Shift b (b.stepHit forward) := by
  unfold stepHit
  dsimp only
  split
  · exact .stay rfl
  · rename_i hn
    have hn : 0 < b.view.find.hits.length := by
      rw [not_or] at hn
      exact Nat.pos_of_ne_zero hn.2
    refine .find _ (.inl hl) (.inr (.inl ?_)) (showHit_scene _)
    show (if forward then _ else _) < b.view.find.hits.length
    split <;> exact Nat.mod_lt _ hn

theorem pressInFind_shift {input : String} (k : Key) (hf : b.view.find.input = some input) :
    Shift b (b.pressInFind input k) := by
  have hopen : b.view.find.input.isSome = true := by rw [hf]; rfl
  have typed {c : Browser} {input : Option String} (hv : c.scene =
      ({ b.view.sight with find := { b.view.find with input } }, b.crumbs, b.search.snapshot)) :
      Shift b c := .find { b.view.find with input := input } (.inr hopen) (.inl ⟨rfl, rfl⟩) hv
  unfold pressInFind
  split
  · exact .find _ (.inr hopen) (.inr (within_zero _)) (showHit_scene _)
  · exact typed rfl
  · exact typed rfl
  · exact typed rfl
  · exact .stay rfl

theorem turnMessage_shift (delta : Int) (hl : b.view.level = .reading) :
    Shift b (b.turnMessage delta).1 := by
  unfold turnMessage
  dsimp only
  split
  · exact .stay rfl
  · rename_i hn
    have hn : 0 < b.view.readingList.length :=
      List.length_pos_iff.2 fun h => hn (List.isEmpty_iff.2 h)
    have hhere : min b.view.readingIndex (b.view.readingList.length - 1) <
        b.view.readingList.length := by omega
    split
    · exact .turn _ _ _ _ hl hhere (.inl ⟨rfl, rfl⟩) rfl
    · split
      · exact .turn _ _ _ _ hl hhere (.inl ⟨rfl, rfl⟩) rfl
      · rename_i hm
        have hi := (List.getElem?_eq_some_iff.1 hm).1
        unfold followReading
        split <;> exact .turn _ _ _ _ hl hi (.inr (within_zero _)) rfl

/-! ## from view to view -/

variable {b} in
theorem drill_shift (hb : b.Free) (hl : b.view.level.isGrouped = true) : Shift b b.drill.1 := by
  unfold drill
  split
  · exact .stay rfl
  · exact .enterList hb hl rfl

variable {b} in
theorem showAll_shift (hb : b.Free) (hl : b.view.level.isGrouped = true) : Shift b b.showAll.1 := by
  unfold showAll
  by_cases hg : b.view.level = .groups
  · rw [if_pos hg]
    dsimp only
    split <;> exact .enterList hb hl rfl
  · rw [if_neg hg]
    dsimp only
    split <;> exact .enterList hb hl rfl

variable {b} in
theorem groupWithin_shift (hb : b.Free) (hl : b.view.level = .list) (d : Dimension) :
    Shift b (b.groupWithin d).1 := .enterRows hb hl rfl

variable {b} in
theorem groupByTime_shift (hb : b.Free) (hl : b.view.level = .list) : Shift b b.groupByTime.1 := by
  unfold groupByTime
  split
  · exact groupWithin_shift hb hl .time
  · exact .stay rfl

variable {b} in
theorem openMessage_shift (fromThread : Bool) (hb : b.Free)
    (hl : b.view.level = if fromThread then .thread else .list) :
    Shift b (b.openMessage fromThread).1 := by
  unfold openMessage
  dsimp only
  split
  · exact .stay rfl
  · rename_i m hm
    refine .enterMessage fromThread _ hb hl ?_ rfl
    cases fromThread with
    | true => exact (List.getElem?_eq_some_iff.1 hm).1
    | false => exact (List.getElem?_eq_some_iff.1 hm).1

variable {b} in
theorem openThread_shift (hb : b.Free) (hl : b.view.level = .list ∨ b.view.level = .reading) :
    Shift b b.openThread.1 := by
  unfold openThread
  split
  · exact .stay rfl
  · exact .enterThread hb hl rfl

theorem goBack_shift : Shift b b.goBack.1 := by
  unfold goBack
  split
  · exact .stay rfl
  · rename_i crumb rest hc
    dsimp only
    split
    · exact .back crumb rest hc rfl
    · exact .back crumb rest hc (reload_scene _)

theorem pressTime_shift (hl : b.view.level.isGrouped = true) : Shift b b.pressTime.1 := by
  unfold pressTime
  split
  · exact .stay rfl
  · split
    · exact .stay rfl
    · exact .empty hl rfl

theorem nextSort_shift : Shift b b.nextSort.1 := by
  unfold nextSort
  split
  · exact .stay rfl
  · exact .stay rfl
  · exact .stay (reload_scene _)
  · exact .stay rfl

theorem flipSort_shift : Shift b b.flipSort.1 := by
  unfold flipSort
  split
  · exact .stay rfl
  · exact .stay rfl
  · exact .stay (reload_scene _)
  · exact .stay rfl

/-! ## the search line -/

theorem openSearch_shift : Shift b b.openSearch.1 := by
  unfold openSearch
  split
  · dsimp only
    split
    · rename_i hk
      simp only [Bool.and_eq_true, decide_eq_true_eq] at hk
      exact .keep _ hk.1.1 rfl rfl rfl
    · exact .stay rfl
  · exact .stay rfl

variable {b} in
/-- A list is shown without its search as it was kept, if it was. -/
theorem clearSearch_scene :
    (∃ s, b.search.snapshot = some s ∧ b.clearSearch.1.scene =
        ({ b.view.sight with messages := s.messages, row := s.cursor }, b.crumbs, some s)) ∨
      b.clearSearch.1.scene = b.scene := by
  unfold clearSearch
  dsimp only
  split
  · rename_i s hs
    refine .inl ⟨s, hs, ?_⟩
    show (_, _, b.search.snapshot) = _
    rw [show b.search.snapshot = some s from hs]
    rfl
  · exact .inr rfl

theorem cancelSearch_shift : Shift b b.cancelSearch.1 := by
  unfold cancelSearch
  dsimp only
  split
  · rename_i hk
    rw [Bool.and_eq_true, decide_eq_true_eq] at hk
    have hscene (d : Browser) : (d.withSearch { d.search with snapshot := none }).scene =
        (d.scene.1, d.scene.2.1, none) := rfl
    rcases clearSearch_scene (b := b.withSearch
        { b.search with active := false, input := "" }.bumpToken) with ⟨s, hs, hv⟩ | hv
    · refine .retake s hk.1 hs none (.inl rfl) ((hscene _).trans ?_)
      rw [hv]
      rfl
    · refine .forget ((hscene _).trans ?_)
      rw [hv]
      rfl
  · split
    · exact .forget rfl
    · split <;> exact .forget rfl

theorem commitSearch_shift : Shift b b.commitSearch.1 := by
  unfold commitSearch
  dsimp only
  split
  · exact cancelSearch_shift b
  · split
    · exact .forget rfl
    · split <;> exact .forget rfl
    · split <;> exact .forget rfl
    · exact .forget rfl

theorem toggleMode_shift : Shift b b.toggleMode.1 := by
  unfold toggleMode
  split
  · dsimp only
    split <;> exact .stay rfl
  · exact .stay rfl

theorem applyQuery_shift (query : String) : Shift b (b.applyQuery query).1 := by
  unfold applyQuery
  dsimp only
  split
  · rename_i hl
    split
    · rcases clearSearch_scene (b := b.withQuery query) with ⟨s, hs, hv⟩ | hv
      · exact .retake s hl hs (some s) (.inr rfl) hv
      · exact .stay hv
    · exact .stay rfl
  · exact .stay rfl
  · exact .stay rfl
  · exact .stay rfl

theorem ticked_shift (query : String) (token : Nat) : Shift b (b.ticked query token).1 := by
  unfold ticked
  split
  · exact applyQuery_shift b _
  · exact .stay rfl

/-! ## marks, batches, files -/

theorem toggleMark_scene : b.toggleMark.scene = b.scene := by
  unfold toggleMark
  split
  · split <;> rfl
  · split <;> rfl
  · split <;> rfl
  · rfl

theorem markVisible_scene : b.markVisible.scene = b.scene := by
  unfold markVisible
  split <;> rfl

theorem stageMarked_scene (orCurrent : Bool) : (b.stageMarked orCurrent).1.scene = b.scene := by
  have hm : (if orCurrent && b.selection.isEmpty then b.toggleMark else b).scene = b.scene := by
    split
    · exact toggleMark_scene b
    · rfl
  unfold stageMarked
  dsimp only
  generalize (if orCurrent && b.selection.isEmpty then b.toggleMark else b) = d at hm
  split <;> exact hm

theorem openExport_scene : b.openExport.1.scene = b.scene := by
  unfold openExport
  split <;> rfl

theorem exportChosen_scene (chosen : OrdSet Nat) :
    ({ b with dialog := none }.exportChosen chosen).1.scene = b.scene := by
  unfold exportChosen
  split
  · rfl
  · dsimp only
    split <;> rfl

/-! ## all steps -/

variable {b}

theorem KeyStep.shift {s : Step} (h : KeyStep b s) : Shift b s.1 := by
  cases h with
  | chooseAccount cursor => exact .top rfl
  | chooseScope cursor =>
    exact .stay (reload_scene _)
  | chooseFiles cursor chosen => exact .stay (exportChosen_scene b chosen)
  | cancelLine => exact cancelSearch_shift b
  | commitLine => exact commitSearch_shift b
  | toggleMode => exact toggleMode_shift b
  | find input k hf => exact pressInFind_shift b k hf
  | moveCursor delta => exact moveCursor_shift b delta
  | pageDown rows => exact pageDown_shift b rows
  | toStart => exact toStart_shift b
  | toEnd => exact toEnd_shift b
  | drill hb hl => exact drill_shift hb hl
  | showAll hb hl => exact showAll_shift hb hl
  | groupBy hb hl => exact groupWithin_shift hb hl _
  | groupByTime hb hl => exact groupByTime_shift hb hl
  | openMessage fromThread hb hl => exact openMessage_shift fromThread hb hl
  | openThread hb hl => exact openThread_shift hb hl
  | goBack => exact goBack_shift b
  | goToTop => exact .top rfl
  | turnDimension forward hb hl => exact .empty hl rfl
  | pressTime hb hl => exact pressTime_shift b hl
  | nextSort => exact nextSort_shift b
  | flipSort => exact flipSort_shift b
  | openSearch => exact openSearch_shift b
  | cancelSearch => exact cancelSearch_shift b
  | toggleMark => exact .stay (toggleMark_scene b)
  | markVisible => exact .stay (markVisible_scene b)
  | stageMarked orCurrent => exact .stay (stageMarked_scene b orCurrent)
  | turnMessage delta hb hl => exact turnMessage_shift b delta hl
  | openFind hb hl =>
    exact .find { b.view.find with input := some b.view.find.text } (.inl hl) (.inl ⟨rfl, rfl⟩) rfl
  | stepHit forward hb hl => exact stepHit_shift b forward hl
  | clearFind hb hl => exact .find {} (.inl hl) (.inr (within_zero _)) rfl
  | openExport => exact .stay (openExport_scene b)
  | _ => exact .stay rfl

/-! ## answers -/

theorem showRows_sight {v : View} (hg : v.level.isGrouped = true) (rows : List Row) (page : Nat) :
    (showRows v rows page).sight =
      { v.sight with rows, row := min v.window.cursor (rows.length - 1) } := by
  have hn : (View.listLength
      { v with totals := rowTotals v rows, data := { v.data with rows } }) = rows.length := by
    unfold View.listLength
    dsimp only
    cases hl : v.level <;> rw [hl] at hg <;> first | rfl | cases hg
  unfold showRows View.clampCursor
  rw [hn]
  rfl

theorem clampMessages_sight {v : View} (hl : v.level = .list) (messages : List Summary)
    (page : Nat) : (View.clampCursor { v with data := { v.data with messages } } page).sight =
      { v.sight with messages, row := min v.window.cursor (messages.length - 1) } := by
  have hn : (View.listLength { v with data := { v.data with messages } }) = messages.length := by
    unfold View.listLength
    rw [hl]
  unfold View.clampCursor
  rw [hn]
  rfl

theorem showPage_sight (v : View) (page : SearchPage) (append : Bool) :
    (showPage v page append).sight =
      { v.sight with
        messages := if append then v.data.messages ++ page.messages else page.messages
        row := if append then v.window.cursor else 0 } := by
  cases append <;> rfl

/-- An answer leaves a scene alone unless it is shown, and then it fills one list. -/
theorem answer_scene {e : Event} (he : e.stamp?.isSome = true) :
    (b.update e).1.scene = b.scene ∨ (b.Shows e ∧ (b.update e).1.scene =
      (b.view.sight.fill b.tuning.threadLimit e, b.crumbs, b.search.snapshot)) := by
  cases e with
  | rowsLoaded id r =>
    show (b.rowsArrived id r).scene = _ ∨ (_ ∧ (b.rowsArrived id r).scene = _)
    unfold rowsArrived
    split
    · rename_i hc
      rw [Bool.and_eq_true] at hc
      cases r with
      | error q => exact .inl rfl
      | ok rows =>
        refine .inr ⟨⟨(beq_iff_eq.1 hc.1).symm, hc.2⟩, ?_⟩
        exact congrArg (·, _, _) (showRows_sight (v := b.view) hc.2 rows b.pageSize)
    · exact .inl rfl
  | messagesLoaded id r =>
    show (b.messagesArrived id r).scene = _ ∨ (_ ∧ (b.messagesArrived id r).scene = _)
    unfold messagesArrived
    split
    · rename_i hc
      rw [Bool.and_eq_true, decide_eq_true_eq] at hc
      dsimp only
      split
      · exact .inl rfl
      · rename_i hq
        cases r with
        | error q => exact .inl rfl
        | ok messages =>
          refine .inr ⟨⟨(beq_iff_eq.1 hc.1).symm, hc.2, by simpa using hq⟩, ?_⟩
          exact congrArg (·, _, _) (clampMessages_sight (v := b.view) hc.2 messages b.pageSize)
    · exact .inl rfl
  | threadLoaded id r =>
    show (b.threadArrived id r).scene = _ ∨ (_ ∧ (b.threadArrived id r).scene = _)
    unfold threadArrived
    split
    · rename_i hc
      rw [Bool.and_eq_true, decide_eq_true_eq] at hc
      cases r with
      | error q => exact .inl rfl
      | ok messages => exact .inr ⟨⟨(beq_iff_eq.1 hc.1).symm, hc.2⟩, rfl⟩
    · exact .inl rfl
  | detailLoaded id r =>
    refine .inl ?_
    show (b.detailArrived id r).scene = _
    unfold detailArrived
    split
    · dsimp only
      split <;> rfl
    · rfl
  | searchLoaded id append r =>
    show (b.searchArrived id append r).scene = _ ∨ (_ ∧ (b.searchArrived id append r).scene = _)
    unfold searchArrived
    split
    · rename_i hc
      rw [Bool.and_eq_true, Bool.and_eq_true, decide_eq_true_eq, Bool.not_eq_true'] at hc
      cases r with
      | error q => exact .inl rfl
      | ok page =>
        refine .inr ⟨⟨(beq_iff_eq.1 hc.1.1).symm, hc.1.2, hc.2⟩, ?_⟩
        exact congrArg (·, _, _) (showPage_sight b.view page append)
    · exact .inl rfl
  | _ => cases he

/-- **Every step shifts the scene, or takes in an answer that is shown.** -/
theorem update_shift (b : Browser) (e : Event) :
    Shift b (b.update e).1 ∨ (b.Shows e ∧ (b.update e).1.scene =
      (b.view.sight.fill b.tuning.threadLimit e, b.crumbs, b.search.snapshot)) := by
  by_cases he : e.stamp?.isSome = true
  · exact (answer_scene he).imp .stay id
  refine .inl ?_
  cases e with
  | key k => exact (press_keyStep b k).shift
  | searchTick query token => exact ticked_shift b query token
  | resize height => exact .stay rfl
  | flashExpired generation =>
    refine .stay ?_
    show (b.expireFlash generation).scene = _
    unfold expireFlash
    split <;> rfl
  | statsLoaded result => cases result <;> exact .stay rfl
  | accountsLoaded result => cases result <;> exact .stay rfl
  | manifestBuilt result =>
    refine .stay ?_
    show (b.manifestBuilt result).1.scene = _
    unfold manifestBuilt
    dsimp only
    split <;> rfl
  | manifestSaved result =>
    refine .stay ?_
    show (b.manifestSaved result).1.scene = _
    unfold manifestSaved
    dsimp only
    split <;> rfl
  | exportFinished result =>
    refine .stay ?_
    show (b.exportFinished result).1.scene = _
    unfold exportFinished
    dsimp only
    split <;> rfl
  | _ => exact absurd rfl he

/-! ## the find line -/

/-- The find line is open over a message only. -/
def FindShut (scene : Sight × List Crumb × Option ListSnapshot) : Prop :=
  (scene.1.level ≠ .reading → scene.1.find.input = none) ∧
    ∀ crumb ∈ scene.2.1, crumb.view.find.input = none

theorem FindShut.down {s : Sight} {kept : Option ListSnapshot} (h : FindShut b.scene)
    (hb : b.Free) (hs : s.find.input = none) : FindShut (s, b.crumb :: b.crumbs, kept) := by
  refine ⟨fun _ => hs, fun crumb hm => ?_⟩
  rcases List.mem_cons.1 hm with rfl | hm
  · exact hb.noFind
  · exact h.2 crumb hm

theorem Shift.findShut (h : Shift b c) (hb : FindShut b.scene) : FindShut c.scene := by
  cases h with
  | find f hl hf hv =>
    rw [hv]
    refine ⟨fun hr => ?_, hb.2⟩
    have hr : b.view.level ≠ .reading := hr
    rcases hl with hl | hl
    · exact absurd hl hr
    · have hn : b.view.find.input = none := hb.1 hr
      rw [hn] at hl
      cases hl
  | turn index row threadRow f hl hi hf hv =>
    rw [hv]
    exact ⟨fun hr => absurd hl hr, hb.2⟩
  | retake s hl hs kept hk hv => rw [hv]; exact ⟨hb.1, hb.2⟩
  | enterList hfree hl hv => rw [hv]; exact hb.down hfree hfree.noFind
  | enterRows hfree hl hv => rw [hv]; exact hb.down hfree hfree.noFind
  | enterMessage fromThread index hfree hl hi hv => rw [hv]; exact hb.down hfree rfl
  | enterThread hfree hl hv => rw [hv]; exact hb.down hfree hfree.noFind
  | back crumb rest hc hv =>
    rw [hv]
    have hm {d : Crumb} (h : d ∈ crumb :: rest) : d ∈ b.crumbs := by rw [hc]; exact h
    refine ⟨fun _ => ?_, fun d hd => hb.2 d (hm (List.mem_cons_of_mem _ hd))⟩
    have hf : (resumeAfter b.view crumb.restore b.pageSize).find = crumb.view.find := by
      unfold resumeAfter
      split <;> rfl
    show (resumeAfter b.view crumb.restore b.pageSize).find.input = none
    rw [hf]
    exact hb.2 crumb (hm List.mem_cons_self)
  | top hv => rw [hv]; exact ⟨fun _ => rfl, fun d hd => by cases hd⟩
  | stay hv => rw [hv]; exact hb
  | forget hv => rw [hv]; exact hb
  | keep s hl hm hr hv => rw [hv]; exact hb
  | move row hl hr hv => rw [hv]; exact hb
  | moveInThread row hl hr hv => rw [hv]; exact hb
  | empty hl hv => rw [hv]; exact hb

theorem FindShut.fill {s : Sight} {crumbs : List Crumb} {kept : Option ListSnapshot}
    (h : FindShut (s, crumbs, kept)) (limit : Nat) (e : Event) :
    FindShut (s.fill limit e, crumbs, kept) := by
  unfold Sight.fill
  split <;> exact h

theorem Reachable.findShut (h : Reachable b) : FindShut b.scene := by
  refine h.induct (P := fun b => FindShut b.scene) (fun _ => ?_) fun b e hb => ?_
  · exact ⟨fun _ => rfl, fun d hd => by cases hd⟩
  · rcases update_shift b e with hs | ⟨-, hv⟩
    · exact hs.findShut hb
    · rw [hv]
      exact FindShut.fill (s := b.view.sight) hb _ e

end Browser
end MailBrowser
