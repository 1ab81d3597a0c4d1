import MailBrowser.Proofs.Browser.Run

/-!
# What a key can do

The key map in one relation: each rule names a transition and says when a key leads to it.  What
holds of every rule holds of every key (`press_keyStep`), so that a property of all keys is a case
for each transition, and none of them looks at the key map again.

* `Free`          the keys go to the screen itself, past work, dialogs and input lines;
* `Level.isListed`   a level that shows a list of rows or of messages;
* `backKey`       the keys that leave a view upwards;
* `KeyStep`       the transitions of keys.
-/

namespace MailBrowser

def Level.isListed : Level → Bool
  | groups | subgroups | list => true
  | reading | thread => false

/-- the same dialog, perhaps with its cursor or its choice elsewhere -/
def Dialog.sameQuestion : Dialog → Dialog → Prop
  | .deletion s, .deletion t => s = t
  | .account _, .account _ => True
  | .attachmentScope _, .attachmentScope _ => True
  | .attachments _ _, .attachments _ _ => True
  | _, _ => False

namespace Browser

structure Free (b : Browser) : Prop where
  idle : b.busy = none
  noDialog : b.dialog = none
  noLine : b.search.active = false
  noFind : b.view.find.input = none

/-- A search of the list, or a text that was looked for in a message, is dropped first. -/
def backKey (b : Browser) (k : Key) : Bool :=
  match b.view.level with
  | .groups => false
  | .subgroups => k = .escape
  | .list => k = .escape && b.view.query.isEmpty
  | .reading => k = .backspace || (k = .escape && b.view.find.text.isEmpty)
  | .thread => k = .escape || k = .backspace

inductive KeyStep (b : Browser) : Step → Prop where
  | still : KeyStep b b.still
  | quit : KeyStep b b.quit
  -- dialogs
  | shut (d : Dialog) (hd : b.dialog = some d) (hi : b.busy = none) :
      KeyStep b { b with dialog := none }.still
  | leave (hd : b.dialog = some .quit) (hi : b.busy = none) :
      KeyStep b { b with dialog := none }.quit
  | ask (d e : Dialog) (hd : b.dialog = some d) (hi : b.busy = none) (he : d.sameQuestion e) :
      KeyStep b ({ b with dialog := none }.openDialog e)
  | save (s : StagedBatch) (hd : b.dialog = some (.deletion s)) (hi : b.busy = none) :
      KeyStep b ({ b with dialog := none, busy := some "Saving manifest..." },
        [.saveManifest s.manifest])
  | chooseAccount (cursor : Nat) (hd : b.dialog = some (.account cursor)) (hi : b.busy = none) :
      KeyStep b ({ b with dialog := none }.selectAccount cursor)
  | chooseScope (cursor : Nat) (hd : b.dialog = some (.attachmentScope cursor))
      (hi : b.busy = none) : KeyStep b ({ b with dialog := none }.setAttachmentsOnly (cursor == 1))
  | chooseFiles (cursor : Nat) (chosen : OrdSet Nat)
      (hd : b.dialog = some (.attachments cursor chosen)) (hi : b.busy = none) :
      KeyStep b ({ b with dialog := none }.exportChosen chosen)
  -- the search line
  | cancelLine (hd : b.dialog = none) (hi : b.busy = none) (ha : b.search.active = true) :
      KeyStep b b.cancelSearch
  | commitLine (hd : b.dialog = none) (hi : b.busy = none) (ha : b.search.active = true) :
      KeyStep b b.commitSearch
  | toggleMode (hd : b.dialog = none) (hi : b.busy = none) (ha : b.search.active = true) :
      KeyStep b b.toggleMode
  | typed (input : String) (hd : b.dialog = none) (hi : b.busy = none)
      (ha : b.search.active = true) : KeyStep b (b.typed input)
  -- the find line
  | find (input : String) (k : Key) (hf : b.view.find.input = some input) (hd : b.dialog = none)
      (hi : b.busy = none) (ha : b.search.active = false) : KeyStep b (b.pressInFind input k).still
  -- cursors
  | moveCursor (delta : Int) (hb : b.Free) : KeyStep b (b.moveCursor delta)
  | pageDown (rows : Nat) (hb : b.Free) : KeyStep b (b.pageDown rows)
  | toStart (hb : b.Free) : KeyStep b b.toStart
  | toEnd (hb : b.Free) : KeyStep b b.toEnd
  -- down, back and to the top
  | drill (hb : b.Free) (hl : b.view.level.isGrouped = true) : KeyStep b b.drill
  | showAll (hb : b.Free) (hl : b.view.level.isGrouped = true) : KeyStep b b.showAll
  | groupBy (hb : b.Free) (hl : b.view.level = .list) (hc : b.view.filter.isConstrained = true) :
      KeyStep b b.groupBy
  | groupByTime (hb : b.Free) (hl : b.view.level = .list) : KeyStep b b.groupByTime
  | openMessage (fromThread : Bool) (hb : b.Free)
      (hl : b.view.level = if fromThread then .thread else .list) :
      KeyStep b (b.openMessage fromThread)
  | openThread (hb : b.Free) (hl : b.view.level = .list ∨ b.view.level = .reading) :
      KeyStep b b.openThread
  | goBack (k : Key) (hb : b.Free) (hk : b.backKey k = true) : KeyStep b b.goBack
  | goToTop (hb : b.Free) (hl : b.view.level = .list)
      (hc : b.view.filter.isConstrained = false) : KeyStep b b.goToTop
  -- other rows, another order, a search
  | turnDimension (forward : Bool) (hb : b.Free) (hl : b.view.level.isGrouped = true) :
      KeyStep b (b.turnDimension forward)
  | pressTime (hb : b.Free) (hl : b.view.level.isGrouped = true) : KeyStep b b.pressTime
  | nextSort (hb : b.Free) (hl : b.view.level.isListed = true) : KeyStep b b.nextSort
  | flipSort (hb : b.Free) (hl : b.view.level.isListed = true) : KeyStep b b.flipSort
  | openSearch (hb : b.Free) (hl : b.view.level.isListed = true) : KeyStep b b.openSearch
  | cancelSearch (hb : b.Free) (hl : b.view.level.isListed = true)
      (hq : b.view.query.isEmpty = false) : KeyStep b b.cancelSearch
  -- marks
  | toggleMark (hb : b.Free) (hl : b.view.level.isListed = true) : KeyStep b b.toggleMark.still
  | markVisible (hb : b.Free) (hl : b.view.level.isListed = true) : KeyStep b b.markVisible.still
  | clearMarks (hb : b.Free) (hl : b.view.level.isListed = true) :
      KeyStep b { b with selection := b.selection.clear }.still
  | stageMarked (orCurrent : Bool) (hb : b.Free) (hl : b.view.level.isListed = true) :
      KeyStep b (b.stageMarked orCurrent)
  -- a message
  | turnMessage (delta : Int) (hb : b.Free) (hl : b.view.level = .reading) :
      KeyStep b (b.turnMessage delta)
  | openFind (hb : b.Free) (hl : b.view.level = .reading) : KeyStep b b.openFind.still
  | stepHit (forward : Bool) (hb : b.Free) (hl : b.view.level = .reading) :
      KeyStep b (b.stepHit forward).still
  | clearFind (hb : b.Free) (hl : b.view.level = .reading) :
      KeyStep b { b with view := b.view.clearFind }.still
  | openExport (hb : b.Free) (hl : b.view.level = .reading) : KeyStep b b.openExport
  -- dialogs that open
  | askAccount (hb : b.Free) (hl : b.view.level.isListed = true) :
      KeyStep b (b.openDialog (.account b.accountChoice))
  | askScope (hb : b.Free) (hl : b.view.level.isListed = true) :
      KeyStep b (b.openDialog (.attachmentScope (if b.attachmentsOnly then 1 else 0)))
  | askHelp (hb : b.Free) : KeyStep b (b.openDialog .help)
  | askQuit (hb : b.Free) : KeyStep b (b.openDialog .quit)

/-! ## the key map -/

variable {b : Browser} {k : Key}

theorem pressInAttachments_keyStep {cursor : Nat} {chosen : OrdSet Nat}
    (hd : b.dialog = some (.attachments cursor chosen)) (hi : b.busy = none) :
    KeyStep b ({ b with dialog := none }.pressInAttachments cursor chosen k) := by
  unfold pressInAttachments
  split
  · exact .chooseFiles cursor chosen hd hi
  · exact .shut _ hd hi
  all_goals exact .ask _ _ hd hi trivial

theorem pressInDialog_keyStep {d : Dialog} (hd : b.dialog = some d) (hi : b.busy = none) :
    KeyStep b (b.pressInDialog d k) := by
  cases d with
  | help => exact .shut _ hd hi
  | quit =>
    show KeyStep b (if isYes k then _ else _)
    split
    · exact .leave hd hi
    · exact .shut _ hd hi
  | account cursor =>
    unfold pressInDialog
    dsimp only
    split
    · exact .chooseAccount cursor hd hi
    · exact .shut _ hd hi
    · exact .ask _ _ hd hi trivial
  | attachmentScope cursor =>
    unfold pressInDialog
    dsimp only
    split
    · exact .chooseScope cursor hd hi
    · exact .shut _ hd hi
    · exact .ask _ _ hd hi trivial
  | deletion staged =>
    show KeyStep b (if isYes k then _ else if isNo k then _ else _)
    split
    · exact .save staged hd hi
    · split
      · exact .shut _ hd hi
      · exact .ask _ _ hd hi rfl
  | attachments cursor chosen => exact pressInAttachments_keyStep hd hi

theorem pressInSearch_keyStep (hd : b.dialog = none) (hi : b.busy = none)
    (ha : b.search.active = true) : KeyStep b (b.pressInSearch k) := by
  unfold pressInSearch
  split
  · exact .cancelLine hd hi ha
  · exact .commitLine hd hi ha
  · exact .toggleMode hd hi ha
  · exact .typed _ hd hi ha
  · exact .typed _ hd hi ha
  · exact .typed _ hd hi ha
  · exact .still

theorem pressInMotion_keyStep (hb : b.Free) {s : Step} (hs : b.pressInMotion? k = some s) :
    KeyStep b s := by
  unfold pressInMotion? at hs
  split at hs <;> cases hs
  · exact .moveCursor _ hb
  · exact .moveCursor _ hb
  · exact .moveCursor _ hb
  · exact .moveCursor _ hb
  · exact .pageDown _ hb
  · exact .pageDown _ hb
  · exact .moveCursor _ hb
  · exact .moveCursor _ hb
  · exact .toStart hb
  · exact .toEnd hb

theorem pressInEither_keyStep (hb : b.Free) (hl : b.view.level.isListed = true) :
    KeyStep b (b.pressInEither k) := by
  unfold pressInEither
  split
  · exact .toggleMark hb hl
  · exact .markVisible hb hl
  · exact .clearMarks hb hl
  · exact .stageMarked _ hb hl
  · exact .stageMarked _ hb hl
  · exact .askAccount hb hl
  · exact .askScope hb hl
  · exact .askHelp hb
  · exact .askQuit hb
  · exact .still

theorem isListed_of_isGrouped {l : Level} (h : l.isGrouped = true) : l.isListed = true := by
  cases l <;> first | rfl | cases h

theorem pressInGroups_keyStep (hb : b.Free) (hl : b.view.level.isGrouped = true) :
    KeyStep b (b.pressInGroups k) := by
  have hm := isListed_of_isGrouped hl
  unfold pressInGroups
  split
  · exact .drill hb hl
  · split
    · rename_i hs
      exact .goBack .escape hb (by simp [backKey, hs])
    · split
      · exact .still
      · rename_i hq
        exact .cancelSearch hb hm (by simpa using hq)
  · exact .showAll hb hl
  · exact .turnDimension _ hb hl
  · exact .turnDimension _ hb hl
  · exact .turnDimension _ hb hl
  · exact .pressTime hb hl
  · exact .nextSort hb hm
  · exact .flipSort hb hm
  · exact .flipSort hb hm
  · exact .openSearch hb hm
  · exact pressInEither_keyStep hb hm

theorem pressInList_keyStep (hb : b.Free) (hl : b.view.level = .list) :
    KeyStep b (b.pressInList k) := by
  have hm : b.view.level.isListed = true := by rw [hl]; rfl
  unfold pressInList
  split
  · exact .openMessage false hb hl
  · split
    · rename_i hq
      exact .goBack .escape hb (by simp [backKey, hl, hq])
    · rename_i hq
      exact .cancelSearch hb hm (by simpa using hq)
  · split
    · rename_i hc
      exact .groupBy hb hl hc
    · exact .still
  · split
    · rename_i hc
      exact .groupBy hb hl hc
    · rename_i hc
      exact .goToTop hb hl (by simpa using hc)
  · exact .groupByTime hb hl
  · exact .openThread hb (.inl hl)
  · exact .nextSort hb hm
  · exact .flipSort hb hm
  · exact .flipSort hb hm
  · exact .openSearch hb hm
  · exact pressInEither_keyStep hb hm

theorem pressInReading_keyStep (hb : b.Free) (hl : b.view.level = .reading) :
    KeyStep b (b.pressInReading k) := by
  unfold pressInReading
  split
  · exact .turnMessage _ hb hl
  · exact .turnMessage _ hb hl
  · exact .turnMessage _ hb hl
  · exact .turnMessage _ hb hl
  · exact .toStart hb
  · exact .toEnd hb
  · exact .openFind hb hl
  · exact .stepHit _ hb hl
  · exact .stepHit _ hb hl
  · split
    · rename_i hf
      exact .goBack .escape hb (by simp [backKey, hl, hf])
    · exact .clearFind hb hl
  · exact .goBack .backspace hb (by simp [backKey, hl])
  · exact .openThread hb (.inr hl)
  · exact .openExport hb hl
  · exact .askHelp hb
  · exact .askQuit hb
  · exact .still

theorem pressInThread_keyStep (hb : b.Free) (hl : b.view.level = .thread) :
    KeyStep b (b.pressInThread k) := by
  unfold pressInThread
  split
  · exact .openMessage true hb hl
  · exact .goBack .escape hb (by simp [backKey, hl])
  · exact .goBack .backspace hb (by simp [backKey, hl])
  · exact .askHelp hb
  · exact .askQuit hb
  · exact .still

theorem pressOnScreen_keyStep (hb : b.Free) : KeyStep b (b.pressOnScreen k) := by
  unfold pressOnScreen
  split
  · rename_i hs
    exact pressInMotion_keyStep hb hs
  · unfold pressInLevel
    split
    · rename_i hl
      exact pressInGroups_keyStep hb (by rw [hl]; rfl)
    · rename_i hl
      exact pressInGroups_keyStep hb (by rw [hl]; rfl)
    · rename_i hl
      exact pressInList_keyStep hb hl
    · rename_i hl
      exact pressInReading_keyStep hb hl
    · rename_i hl
      exact pressInThread_keyStep hb hl

/-- **Every key follows one of the rules.** -/
theorem press_keyStep (b : Browser) (k : Key) : KeyStep b (b.press k) := by
  unfold press
  split
  · exact .quit
  · split
    · exact .still
    · rename_i hi
      have hi : b.busy = none := by simpa using hi
      split
      · rename_i hd
        exact pressInDialog_keyStep hd hi
      · rename_i hd
        split
        · rename_i ha
          exact pressInSearch_keyStep hd hi ha
        · rename_i ha
          have ha : b.search.active = false := by simpa using ha
          split
          · rename_i hf
            exact .find _ k hf hd hi ha
          · rename_i hf
            exact pressOnScreen_keyStep ⟨hi, hd, ha, hf⟩

/-- Past work, dialogs and input lines, only the key that quits does not go to the screen. -/
theorem press_of_free (hf : b.Free) :
    b.press k = if k = .ctrl 'c' then b.quit else b.pressOnScreen k := by
  unfold press
  simp only [hf.idle, hf.noDialog, hf.noLine, hf.noFind, Option.isSome_none, Bool.false_eq_true,
    if_false]

/-- A key goes to the line if it is open and nothing else takes the key. -/
theorem press_of_line (hi : b.busy = none) (hd : b.dialog = none) (ha : b.search.active = true) :
    b.press k = if k = .ctrl 'c' then b.quit else b.pressInSearch k := by
  unfold press
  rw [hi, hd]
  dsimp only
  rw [if_neg (by decide : ¬ (none : Option String).isSome = true), if_pos ha]

end Browser
end MailBrowser
