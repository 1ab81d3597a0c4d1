import MailBrowser.Proofs.Browser.Way
import MailBrowser.Proofs.Drill.Constraints

/-!
# The ways of all steps

* `switchDimension_way` to `selectAccount_way`    navigation;
* `openSearch_way` to `ticked_way`                the search line;
* `rowsArrived_filled` to `searchArrived_filled`  the answers;
* `KeyStep.way`, `update_way`   all keys, all events; `update_ends` how they end.
-/

namespace MailBrowser
namespace Browser

variable {b : Browser}

theorem Orderly.snapshot_none (h : b.Orderly) (ha : b.search.active = false) :
    b.search.snapshot = none := by
  cases hs : b.search.snapshot with
  | none => rfl
  | some s =>
    have hl := h.line (by rw [hs]; rfl)
    rw [ha] at hl
    cases hl

theorem stay_still (b : Browser) : Way b (b, []) := .stay (quietly_still (.refl b))

/-- a change of the view at its level, and of what has nothing to do with it -/
theorem here_of_view {b : Browser} {v : View} {s : Selection} (hl : v.level = b.view.level)
    (hf : v.filter = b.view.filter)
    (ht : (s.dimension = b.selection.dimension ∧ v.dimension = b.view.dimension) ∨
      s.dimension = v.dimension) : Here b { b with view := v, selection := s } where
  ledger := rfl
  generation := rfl
  flash := .inl rfl
  line := .inr (.inr ⟨rfl, rfl⟩)
  scope h := ⟨h, id⟩
  crumbs := rfl
  account := rfl
  level := hl
  filter := by show v.filter = _; rw [hf]
  snapshot := .inr rfl
  tag := ht

/-! ## rows and orders -/

theorem regroup_way {v : View} {s : Selection} (hb : b.view.level.isGrouped = true)
    (hl : v.level = b.view.level) (hf : v.filter = b.view.filter)
    (ht : (s.dimension = b.selection.dimension ∧ v.dimension = b.view.dimension) ∨
      s.dimension = v.dimension) : Way b { b with view := v, selection := s }.loadRows :=
  .regroup hb (here_of_view hl hf ht) .alone

theorem switchDimension_way (hb : b.view.level.isGrouped = true) (d : Dimension) :
    Way b (b.switchDimension d) := regroup_way hb (by rfl) (by rfl) (.inr (by rfl))

theorem pressTime_way (hb : b.view.level.isGrouped = true) : Way b b.pressTime := by
  unfold pressTime
  split
  · exact regroup_way hb (by rfl) (by rfl) (.inl ⟨by rfl, by rfl⟩)
  · split
    · exact stay_still b
    · exact switchDimension_way hb _

theorem nextSort_way (ha : b.search.active = false) : Way b b.nextSort := by
  unfold nextSort
  split
  · rename_i hl
    exact regroup_way (by rw [hl]; rfl) (by rfl) (by rfl) (.inl ⟨by rfl, by rfl⟩)
  · rename_i hl
    exact regroup_way (by rw [hl]; rfl) (by rfl) (by rfl) (.inl ⟨by rfl, by rfl⟩)
  · rename_i hl
    have hc := here_of_view (b := b) (v := { b.view with messageField := b.view.messageField.next })
      (s := b.selection) rfl rfl (.inl ⟨rfl, rfl⟩)
    exact reload_way hl hc fun ho => ho.snapshot_none ha
  · exact stay_still b

theorem flipSort_way (ha : b.search.active = false) : Way b b.flipSort := by
  unfold flipSort
  split
  · rename_i hl
    exact regroup_way (by rw [hl]; rfl) (by rfl) (by rfl) (.inl ⟨by rfl, by rfl⟩)
  · rename_i hl
    exact regroup_way (by rw [hl]; rfl) (by rfl) (by rfl) (.inl ⟨by rfl, by rfl⟩)
  · rename_i hl
    have hc := here_of_view (b := b)
      (v := { b.view with messageDirection := b.view.messageDirection.flip })
      (s := b.selection) rfl rfl (.inl ⟨rfl, rfl⟩)
    exact reload_way hl hc fun ho => ho.snapshot_none ha
  · exact stay_still b

/-! ## down -/

theorem account_drillBase (h : b.view.filter.account = b.account) :
    b.drillBase.account = b.account := by
  unfold drillBase
  split
  · rfl
  · exact h

theorem drill_way (hb : b.Free) (hl : b.view.level.isGrouped = true) : Way b b.drill := by
  unfold drill
  split
  · exact stay_still b
  · rename_i row hr
    refine .down ?_ (.list hl (by rfl) (by rfl) (by rfl))
    refine ⟨⟨rfl, rfl, .inl rfl⟩, hb, rfl, rfl, rfl, .inl rfl, hb.noDialog, fun hf => ?_⟩
    show (b.drillBase.apply b.view.dimension row.key b.view.granularity).account = b.account
    rw [Filter.account_apply]
    exact account_drillBase hf

theorem account_showAll (b : Browser) (h : b.view.filter.account = b.account) :
    (if b.view.level = .groups then
      { b.view with filter := b.scopeFilter, origin := none, allMessages := true, totals := none }
    else b.view).filter.account = b.account := by
  split
  · rfl
  · exact h

theorem showAll_way (hb : b.Free) (hl : b.view.level.isGrouped = true) : Way b b.showAll := by
  unfold showAll
  dsimp only
  split
  · refine .down ?_ (.list hl (by rfl) (by rfl) (by rfl))
    exact ⟨⟨rfl, rfl, .inl rfl⟩, hb, rfl, rfl, rfl, .inl rfl, hb.noDialog, account_showAll b⟩
  · rename_i hq
    refine .down ?_ (.results hl (by rfl) (by simpa using hq) (by rfl))
    exact ⟨⟨rfl, rfl, .inl rfl⟩, hb, rfl, rfl, rfl, .inl rfl, hb.noDialog, account_showAll b⟩

theorem groupWithin_way (hb : b.Free) (hl : b.view.level = .list) (d : Dimension) :
    Way b (b.groupWithin d) := by
  refine .down ?_ (.rows hl (by rfl) (by rfl))
  exact ⟨⟨rfl, rfl, .inl rfl⟩, hb, rfl, rfl, rfl, .inl rfl, hb.noDialog, id⟩

theorem groupByTime_way (hb : b.Free) (hl : b.view.level = .list) : Way b b.groupByTime := by
  unfold groupByTime
  split
  · exact groupWithin_way hb hl _
  · exact stay_still b

theorem openMessage_way (fromThread : Bool) (hb : b.Free)
    (hl : b.view.level = if fromThread then .thread else .list) :
    Way b (b.openMessage fromThread) := by
  have hd : b.view.level = .list ∨ b.view.level = .thread := by
    cases fromThread with
    | false => exact .inl hl
    | true => exact .inr hl
  unfold openMessage
  dsimp only
  split
  · exact stay_still b
  · rename_i m hm
    refine .down ?_ (.message m.id hd (by rfl) hl (by rfl) ?_)
    · exact ⟨⟨rfl, rfl, .inl rfl⟩, hb, rfl, rfl, rfl, .inr rfl, hb.noDialog, id⟩
    cases fromThread with
    | false =>
      show (b.view.data.messages[b.view.window.cursor]?).map Summary.id = some m.id
      have hm : b.view.data.messages[b.view.window.cursor]? = some m := hm
      rw [hm]; rfl
    | true =>
      show (b.view.data.thread[b.view.threadWindow.cursor]?).map Summary.id = some m.id
      have hm : b.view.data.thread[b.view.threadWindow.cursor]? = some m := hm
      rw [hm]; rfl

theorem openThread_way (hb : b.Free) (hl : b.view.level = .list ∨ b.view.level = .reading) :
    Way b b.openThread := by
  unfold openThread
  split
  · exact .stay ⟨b, .notice _, .refl b⟩
  · rename_i c hc
    refine .down ?_ (.thread ?_ (by rfl))
    · exact ⟨⟨rfl, rfl, .inl rfl⟩, hb, rfl, rfl, rfl, .inr rfl, hb.noDialog, id⟩
    rcases hl with hl | hl
    · exact .inl hl
    · refine .inr ⟨hl, ?_⟩
      cases hd : b.view.data.detail with
      | none => simp [conversation?, hl, hd] at hc
      | some d => rfl

theorem turnMessage_way (delta : Int) (hb : b.view.level = .reading) :
    Way b (b.turnMessage delta) := by
  unfold turnMessage
  dsimp only
  split
  · exact .stay ⟨b, .notice _, .refl b⟩
  · have hq : Quiet b { b with
        view := { b.view with
          readingIndex := min b.view.readingIndex (b.view.readingList.length - 1) } } :=
      ⟨⟨rfl, rfl, .inl rfl⟩, ⟨.of_parts rfl, rfl,
        fun h => Nat.min_eq_left (by omega), id⟩⟩
    split
    · exact .stay ⟨_, .notice _, hq⟩
    · split
      · exact .stay ⟨_, .notice _, hq⟩
      · rename_i m hm
        unfold followReading
        split
        all_goals
          rename_i ht
          refine .turn m.id hb ⟨⟨rfl, rfl, .inl rfl⟩, ⟨.inr (.inr ⟨rfl, rfl⟩), fun h => ⟨h, id⟩⟩,
            rfl, rfl, rfl, rfl, .inr rfl, .inl ⟨rfl, rfl⟩⟩ rfl rfl ?_
          exact congrArg (Option.map Summary.id) hm

/-! ## back, and to the top -/

theorem goBack_way (hb : b.Free) : Way b b.goBack := by
  by_cases h : b.crumbs = []
  · unfold goBack
    rw [h]
    exact stay_still b
  · obtain ⟨c, rest, hc⟩ := List.exists_cons_of_ne_nil h
    exact .back hb hc

theorem goToTop_way (hb : b.Free) : Way b b.goToTop := by
  refine .top ?_ .alone
  exact ⟨⟨rfl, rfl, .inl rfl⟩, rfl, rfl, rfl, hb.noDialog, rfl, rfl⟩

theorem selectAccount_way (choice : Nat) :
    Way b ({ b with dialog := none }.selectAccount choice) := by
  refine .top ?_ .withStats
  exact ⟨⟨rfl, rfl, .inl rfl⟩, rfl, rfl, rfl, rfl, rfl, rfl⟩

/-- Where no list is asked for its scope, there is no order. -/
theorem setAttachmentsOnly_way {cursor : Nat} (hd : b.dialog = some (.attachmentScope cursor))
    (only : Bool) : Way b ({ b with dialog := none }.setAttachmentsOnly only) := by
  let c := { b with
    dialog := none
    attachmentsOnly := only
    view := { b.view with filter := { b.view.filter with attachmentsOnly := only } } }
  have hs : b.asksScope = true := by unfold asksScope; rw [hd]; rfl
  have hc : Here b c := ⟨⟨rfl, rfl, .inl rfl⟩, ⟨.inr (.inr ⟨rfl, rfl⟩), fun h => by cases h⟩, rfl,
    rfl, rfl, rfl, .inr rfl, .inl ⟨rfl, rfl⟩⟩
  show Way b (c.reload.1, if c.reload.1.view.level = .groups then
    c.reload.2 ++ [c.reload.1.statsEffect] else c.reload.2)
  rw [reload_view]
  by_cases hg : b.view.level.isGrouped = true
  · rw [reload_grouped c hg]
    split
    · exact .regroup hg hc .withStats
    · exact .regroup hg hc .alone
  · have hn : c.view.level ≠ .groups := fun h => hg (by rw [show b.view.level = .groups from h]; rfl)
    rw [if_neg hn]
    by_cases hl : b.view.level = .list
    · exact reload_way hl hc fun ho => ho.snapshot_none (ho.scope hs).1
    · refine .stray (fun ho => ?_) ((reload_ends c).after ⟨rfl, rfl, .inl rfl⟩)
      have := (ho.scope hs).2
      cases hv : b.view.level <;> simp_all [Level.isListed, Level.isGrouped]

/-! ## the search line -/

/-- a line that is closed, over a list or not -/
theorem line_closed {b : Browser} {v : View} {s : SearchSession}
    (ho : v.outline = b.view.outline)
    (hq : b.view.level.isListed = true → v.query = b.view.query) (hd : v.data = b.view.data)
    (hi : v.readingIndex = b.view.readingIndex) (hs : s.snapshot = none) (ha : s.active = false) :
    Line b { b with view := v, search := s } where
  ledger := rfl
  generation := rfl
  flash := .inl rfl
  line := .inr (.inl hs)
  scope h := ⟨h, fun hc => by rw [show s.active = true from hc] at ha; cases ha⟩
  crumbs := rfl
  account := rfl
  attachmentsOnly := rfl
  outline := ho
  query := hq
  data := hd
  readingIndex := hi
  loading := rfl
  tag := rfl
  snapshot := .inl hs

theorem openSearch_way (hb : b.Free) : Way b b.openSearch := by
  unfold openSearch
  split
  · refine .line ⟨⟨rfl, rfl, .inl rfl⟩, ⟨.inl rfl, ?_⟩, rfl, rfl, rfl, rfl, fun _ => rfl, rfl, rfl,
      rfl, rfl, ?_⟩
    · intro h
      have : (b.dialog.map Dialog.isScope).getD false = true := h
      rw [hb.noDialog] at this
      cases this
    · show (if _ then _ else b.search.snapshot) = none ∨ (if _ then _ else b.search.snapshot) = _ ∨ _
      split
      · rename_i h
        simp only [Bool.and_eq_true, decide_eq_true_eq, Bool.not_eq_true'] at h
        exact .inr (.inr ⟨h.1.1, h.1.2, h.2⟩)
      · exact .inr (.inl rfl)
  · exact stay_still b

/-- A list that was kept is taken up without a request. -/
theorem clearSearch_of_snapshot (b : Browser) {s : ListSnapshot} (h : b.search.snapshot = some s) :
    b.clearSearch = ({ (b.withQuery "").withSearch b.search.forgetResults with
      view := showSnapshot (b.withQuery "").view s }, []) := by
  have h' : ((b.withQuery "").withSearch b.search.forgetResults).search.snapshot = some s := h
  unfold clearSearch
  dsimp only
  rw [h']
  rfl

theorem clearSearch_of_none (b : Browser) (h : b.search.snapshot = none) :
    b.clearSearch = ((b.withQuery "").withSearch b.search.forgetResults).loadMessages := by
  have h' : ((b.withQuery "").withSearch b.search.forgetResults).search.snapshot = none := h
  unfold clearSearch
  dsimp only
  rw [h']

/-- a search of the rows, or none, with the line as it is or closed -/
theorem here_of_search {b : Browser} {s : SearchSession} {v : View}
    (hl : v.level = b.view.level) (hf : v.filter = b.view.filter)
    (hd : v.dimension = b.view.dimension)
    (hs : s.snapshot = none ∨ (s.snapshot = b.search.snapshot ∧ s.active = b.search.active))
    (ha : s.active = true → b.search.active = true) : Here b { b with view := v, search := s } where
  ledger := rfl
  generation := rfl
  flash := .inl rfl
  line := .inr hs
  scope h := ⟨h, ha⟩
  crumbs := rfl
  account := rfl
  level := hl
  filter := by show v.filter = _; rw [hf]
  snapshot := hs.imp id And.left
  tag := .inl ⟨rfl, hd⟩

theorem cancelSearch_way (b : Browser) : Way b b.cancelSearch := by
  unfold cancelSearch
  dsimp only
  split
  · rename_i h
    rw [Bool.and_eq_true, decide_eq_true_eq] at h
    obtain ⟨s, hs⟩ := Option.isSome_iff_exists.1 h.2
    rw [clearSearch_of_snapshot _ hs]
    refine .retake h.1 ?_ (by rfl) h.2
    exact here_of_search rfl rfl rfl (.inl rfl) fun ha => by cases ha
  · split
    · exact .line (line_closed (by rfl) (fun _ => rfl) (by rfl) (by rfl) (by rfl) (by rfl))
    · split
      · rename_i hl
        refine .relist hl ?_ (by rfl) fun _ => by rfl
        exact here_of_search rfl rfl rfl (.inl rfl) fun ha => by cases ha
      · rename_i hl
        refine .regroup (by rw [show b.view.level = .groups from hl]; rfl) ?_ .alone
        exact here_of_search rfl rfl rfl (.inl rfl) fun ha => by cases ha
      · rename_i hl
        refine .regroup (by rw [show b.view.level = .subgroups from hl]; rfl) ?_ .alone
        exact here_of_search rfl rfl rfl (.inl rfl) fun ha => by cases ha
      · rename_i hl hg hs
        refine .line (line_closed (by rfl) (fun hv => ?_) (by rfl) (by rfl) (by rfl) (by rfl))
        cases hv' : b.view.level <;> simp_all [Level.isListed, withSearch, SearchSession.bumpToken]

theorem applyQuery_way (b : Browser) (query : String) : Way b (b.applyQuery query) := by
  unfold applyQuery
  dsimp only
  split
  · rename_i hl
    split
    · rename_i hq
      cases hs : b.search.snapshot with
      | none =>
        rw [clearSearch_of_none (b.withQuery query) hs]
        refine .relist hl ?_ (by rfl) fun _ => hs
        exact here_of_search rfl rfl rfl (.inl hs) id
      | some s =>
        rw [clearSearch_of_snapshot (b.withQuery query) hs]
        refine .retake hl ?_ (by rfl) (by rw [hs]; rfl)
        exact here_of_search rfl rfl rfl (.inr ⟨rfl, rfl⟩) id
    · rename_i hq
      refine searchAfresh_way hl ?_ (Bool.eq_false_iff.2 hq)
      exact here_of_search rfl rfl rfl (.inr ⟨rfl, rfl⟩) id
  · rename_i hl
    refine .regroup (by rw [show b.view.level = .groups from hl]; rfl) ?_ .alone
    exact here_of_search rfl rfl rfl (.inr ⟨rfl, rfl⟩) id
  · rename_i hl
    refine .regroup (by rw [show b.view.level = .subgroups from hl]; rfl) ?_ .alone
    exact here_of_search rfl rfl rfl (.inr ⟨rfl, rfl⟩) id
  · rename_i hl hg hs
    refine .stay (quietly_still ⟨⟨rfl, rfl, .inl rfl⟩, ⟨⟨rfl, rfl, rfl, rfl, fun hv => ?_, rfl, rfl,
      rfl, .inl, .inl rfl⟩, rfl, fun _ => rfl, id⟩⟩)
    cases hv' : b.view.level <;> simp_all [Level.isListed, withQuery]

theorem ticked_way (b : Browser) (query : String) (token : Nat) : Way b (b.ticked query token) := by
  unfold ticked
  split
  · exact applyQuery_way b _
  · exact stay_still b

theorem toggleMode_way (b : Browser) : Way b b.toggleMode := by
  unfold toggleMode
  dsimp only
  split
  · rename_i hl
    split
    · exact .line ⟨⟨rfl, rfl, .inl rfl⟩, ⟨.inr (.inr ⟨rfl, rfl⟩), fun h => ⟨h, id⟩⟩, rfl, rfl, rfl,
        rfl, fun _ => rfl, rfl, rfl, rfl, rfl, .inr (.inl rfl)⟩
    · rename_i hq
      refine searchAfresh_way hl ?_ (Bool.eq_false_iff.2 hq)
      exact here_of_search rfl rfl rfl (.inr ⟨rfl, rfl⟩) id
  · exact stay_still b

theorem commitSearch_way (b : Browser) : Way b b.commitSearch := by
  unfold commitSearch
  dsimp only
  split
  · exact cancelSearch_way b
  · rename_i hq
    split
    · rename_i hl
      refine searchAfresh_way hl ?_ (Bool.eq_false_iff.2 hq)
      exact here_of_search rfl rfl rfl (.inl rfl) fun ha => by cases ha
    · rename_i hl
      split
      · exact .line (line_closed (by rfl) (fun _ => rfl) (by rfl) (by rfl) (by rfl) (by rfl))
      · refine .regroup (by rw [show b.view.level = .groups from hl]; rfl) ?_ .alone
        exact here_of_search rfl rfl rfl (.inl rfl) fun ha => by cases ha
    · rename_i hl
      split
      · exact .line (line_closed (by rfl) (fun _ => rfl) (by rfl) (by rfl) (by rfl) (by rfl))
      · refine .regroup (by rw [show b.view.level = .subgroups from hl]; rfl) ?_ .alone
        exact here_of_search rfl rfl rfl (.inl rfl) fun ha => by cases ha
    · exact .line (line_closed (by rfl) (fun _ => rfl) (by rfl) (by rfl) (by rfl) (by rfl))

/-! ## answers -/

theorem rowsArrived_filled (b : Browser) (id : Nat) (r : Answer (List Row)) :
    b.rowsArrived id r = b ∨ (id = b.ledger.current .rows ∧ Filled b .rows (b.rowsArrived id r)) := by
  unfold rowsArrived
  split
  · rename_i h
    rw [Bool.and_eq_true] at h
    refine .inr ⟨(beq_iff_eq.1 h.1).symm, ?_⟩
    dsimp only
    split <;> exact ⟨⟨rfl, rfl, .inl rfl⟩, .of_parts rfl,
      h.2, fun h => by cases h⟩
  · exact .inl rfl

theorem messagesArrived_filled (b : Browser) (id : Nat) (r : Answer (List Summary)) :
    b.messagesArrived id r = b ∨
      (id = b.ledger.current .messages ∧ Filled b .messages (b.messagesArrived id r)) := by
  unfold messagesArrived
  split
  · rename_i h
    rw [Bool.and_eq_true, decide_eq_true_eq] at h
    refine .inr ⟨(beq_iff_eq.1 h.1).symm, ?_⟩
    have hl : fits .messages b.view.level = true := by rw [h.2]; rfl
    dsimp only
    split
    · exact ⟨⟨rfl, rfl, .inl rfl⟩, .of_parts rfl, hl,
        fun h => by cases h⟩
    · split <;> exact ⟨⟨rfl, rfl, .inl rfl⟩, .of_parts rfl,
        hl, fun h => by cases h⟩
  · exact .inl rfl

theorem threadArrived_filled (b : Browser) (id : Nat) (r : Answer (List Summary)) :
    b.threadArrived id r = b ∨
      (id = b.ledger.current .messages ∧ Filled b .messages (b.threadArrived id r)) := by
  unfold threadArrived
  split
  · rename_i h
    rw [Bool.and_eq_true, decide_eq_true_eq] at h
    refine .inr ⟨(beq_iff_eq.1 h.1).symm, ?_⟩
    have hl : fits .messages b.view.level = true := by rw [h.2]; rfl
    dsimp only
    split <;> exact ⟨⟨rfl, rfl, .inl rfl⟩, .of_parts rfl,
      hl, fun h => by cases h⟩
  · exact .inl rfl

theorem detailArrived_filled (b : Browser) (id : Nat) (r : Answer (Option Detail)) :
    b.detailArrived id r = b ∨
      (id = b.ledger.current .detail ∧ Filled b .detail (b.detailArrived id r)) := by
  unfold detailArrived
  split
  · rename_i h
    rw [Bool.and_eq_true, decide_eq_true_eq] at h
    refine .inr ⟨(beq_iff_eq.1 h.1).symm, ?_⟩
    have hl : fits .detail b.view.level = true := by rw [h.2]; rfl
    dsimp only
    split <;> exact ⟨⟨rfl, rfl, .inl rfl⟩, .of_parts rfl,
      hl, fun h => by cases h⟩
  · exact .inl rfl

theorem searchArrived_filled (b : Browser) (id : Nat) (append : Bool) (r : Answer SearchPage) :
    b.searchArrived id append r = b ∨
      (id = b.ledger.current .search ∧ Filled b .search (b.searchArrived id append r)) := by
  unfold searchArrived
  split
  · rename_i h
    rw [Bool.and_eq_true, Bool.and_eq_true, decide_eq_true_eq] at h
    refine .inr ⟨(beq_iff_eq.1 h.1.1).symm, ?_⟩
    have hl : fits .search b.view.level = true := by rw [h.1.2]; rfl
    dsimp only
    split <;> exact ⟨⟨rfl, rfl, .inl rfl⟩, .of_parts rfl,
      hl, fun _ => rfl⟩
  · exact .inl rfl

/-! ## all steps -/

theorem KeyStep.way {b : Browser} {s : Step} (h : KeyStep b s) : Way b s := by
  cases h with
  | still => exact stay_still b
  | quit => exact .stay ⟨_, .other _ rfl rfl, .of_rest rfl id rfl⟩
  | shut => exact .stay (quietly_still (closeDialog_quiet b))
  | leave => exact .stay ⟨_, .other _ rfl rfl, .of_rest rfl (fun h => by cases h) rfl⟩
  | ask d e hd hi he => exact .stay (quietly_still (askAgain_quiet b hd he))
  | save => exact .stay ⟨_, .other _ rfl rfl, .of_rest rfl (fun h => by cases h) rfl⟩
  | chooseAccount cursor => exact selectAccount_way cursor
  | chooseScope cursor hd => exact setAttachmentsOnly_way hd _
  | chooseFiles => exact .stay ((exportChosen_quietly _ _).after (closeDialog_quiet b))
  | cancelLine => exact cancelSearch_way b
  | commitLine => exact commitSearch_way b
  | toggleMode => exact toggleMode_way b
  | typed => exact .stay (typed_quietly b _)
  | find => exact .stay (quietly_still (pressInFind_quiet b _ _))
  | moveCursor => exact .stay (moveCursor_quietly b _)
  | pageDown => exact .stay (pageDown_quietly b _)
  | toStart => exact .stay (toStart_quietly b)
  | toEnd => exact .stay (toEnd_quietly b)
  | drill hb hl => exact drill_way hb hl
  | showAll hb hl => exact showAll_way hb hl
  | groupBy hb hl => exact groupWithin_way hb hl _
  | groupByTime hb hl => exact groupByTime_way hb hl
  | openMessage fromThread hb hl => exact openMessage_way fromThread hb hl
  | openThread hb hl => exact openThread_way hb hl
  | goBack k hb => exact goBack_way hb
  | goToTop hb => exact goToTop_way hb
  | turnDimension forward hb hl => exact switchDimension_way hl _
  | pressTime hb hl => exact pressTime_way hl
  | nextSort hb => exact nextSort_way hb.noLine
  | flipSort hb => exact flipSort_way hb.noLine
  | openSearch hb => exact openSearch_way hb
  | cancelSearch => exact cancelSearch_way b
  | toggleMark => exact .stay (quietly_still (toggleMark_quiet b))
  | markVisible => exact .stay (quietly_still (markVisible_quiet b))
  | clearMarks => exact .stay (quietly_still (.of_rest rfl id rfl))
  | stageMarked => exact .stay (stageMarked_quietly b _)
  | turnMessage delta hb hl => exact turnMessage_way delta hl
  | openFind => exact .stay (quietly_still (.withView b rfl rfl rfl rfl))
  | stepHit => exact .stay (quietly_still (stepHit_quiet b _))
  | clearFind => exact .stay (quietly_still (.withView b rfl rfl rfl rfl))
  | openExport => exact .stay (openExport_quietly b)
  | askAccount => exact .stay (quietly_still (.of_rest rfl (fun h => by cases h) rfl))
  | askScope hb hl =>
    exact .stay (quietly_still (.of_core rfl (fun _ => .inr ⟨hb.noLine, hl⟩) (.inl rfl)))
  | askHelp => exact .stay (quietly_still (.of_rest rfl (fun h => by cases h) rfl))
  | askQuit => exact .stay (quietly_still (.of_rest rfl (fun h => by cases h) rfl))

theorem still_way {b c : Browser} (h : c = b) : Way b c.still := by
  rw [h]
  exact stay_still b

/-- **Every step takes one of the ways, or takes in the answer to the last request of its kind.** -/
theorem update_way (b : Browser) (e : Event) :
    Way b (b.update e) ∨ ∃ k c, e.stamp? = some (k, b.ledger.current k) ∧
      b.update e = c.still ∧ Filled b k c := by
  cases e with
  | key k => exact .inl (press_keyStep b k).way
  | resize height => exact .inl (.stay (quietly_still (resize_quiet b height)))
  | rowsLoaded id result =>
    rcases rowsArrived_filled b id result with h | ⟨rfl, h⟩
    · exact .inl (still_way h)
    · exact .inr ⟨.rows, _, rfl, rfl, h⟩
  | messagesLoaded id result =>
    rcases messagesArrived_filled b id result with h | ⟨rfl, h⟩
    · exact .inl (still_way h)
    · exact .inr ⟨.messages, _, rfl, rfl, h⟩
  | threadLoaded id result =>
    rcases threadArrived_filled b id result with h | ⟨rfl, h⟩
    · exact .inl (still_way h)
    · exact .inr ⟨.messages, _, rfl, rfl, h⟩
  | detailLoaded id result =>
    rcases detailArrived_filled b id result with h | ⟨rfl, h⟩
    · exact .inl (still_way h)
    · exact .inr ⟨.detail, _, rfl, rfl, h⟩
  | searchLoaded id append result =>
    rcases searchArrived_filled b id append result with h | ⟨rfl, h⟩
    · exact .inl (still_way h)
    · exact .inr ⟨.search, _, rfl, rfl, h⟩
  | searchTick query token => exact .inl (ticked_way b query token)
  | flashExpired generation => exact .inl (.stay (quietly_still (expireFlash_quiet b generation)))
  | statsLoaded result => exact .inl (.stay (quietly_still (statsArrived_quiet b result)))
  | accountsLoaded result => exact .inl (.stay (quietly_still (accountsArrived_quiet b result)))
  | manifestBuilt result => exact .inl (.stay (manifestBuilt_quietly b result))
  | manifestSaved result => exact .inl (.stay (manifestSaved_quietly b result))
  | exportFinished result => exact .inl (.stay (exportFinished_quietly b result))

/-! ## how they end -/

theorem goBack_ends (b : Browser) : Ends b b.goBack := by
  unfold goBack
  split
  · exact ends_still (.refl b)
  · dsimp only
    split
    · exact ends_still ⟨rfl, rfl, .inl rfl⟩
    · exact (reload_ends _).after ⟨rfl, rfl, .inl rfl⟩

theorem Way.ends {b : Browser} {s : Step} (h : Way b s) : Ends b s := by
  cases h with
  | stay h => exact h.ends
  | line h => exact ends_still h.toSameBooks
  | regroup hb h hs => exact ⟨_, hs.ending, h.toSameBooks⟩
  | relist hb h => exact ⟨_, .messages, h.toSameBooks⟩
  | search hb h => exact ⟨_, .search _ _, h.toSameBooks⟩
  | retake hb h => exact ends_still h.toSameBooks
  | turn m hb h hf hd hm => exact ⟨_, .detail m hm, h.toSameBooks⟩
  | down h he => exact ⟨_, he.ending, h.toSameBooks⟩
  | back hb h => exact goBack_ends b
  | top h hs => exact ⟨_, hs.ending, h.toSameBooks⟩
  | stray hb h => exact h

theorem update_ends (b : Browser) (e : Event) : Ends b (b.update e) := by
  rcases update_way b e with h | ⟨k, c, -, hs, hc⟩
  · exact h.ends
  · rw [hs]
    exact ends_still hc.toSameBooks

end Browser
end MailBrowser
