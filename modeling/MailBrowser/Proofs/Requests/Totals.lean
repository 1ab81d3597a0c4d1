import Mathlib.Data.List.Induction
import MailBrowser.Proofs.Browser.Standing
import MailBrowser.Proofs.Browser.Ways

/-!
# The totals of the scope

The totals above a view are of the scope.  They are asked for at the start, when an account is
chosen, and when the scope is changed over the rows at the top; further down such a change leaves
them alone.  The requests have no numbers, so the ones asked for last have to come last.

* `totalsAsked`, `totalsCame`   the totals asked for in a session, and those that came;
* `Browser.header`   the totals on screen, and the scope that they should be of;
* `Measured`         what a step does to them, and the totals that it asks for;
* `update_measured`  every step but an answer does one of these;
* `AskedLast`        what the totals asked for last are of;
* `ChangedBelow`     the scope was changed below the top since totals were last asked for;
* `totals_follow`    the totals are of the scope, unless it was changed below the top.
-/

namespace MailBrowser

def Effect.totals? : Effect → Option StatsOptions
  | .loadStats o => some o
  | _ => none

def Event.totals? : Event → Option (Answer Stats)
  | .statsLoaded r => some r
  | _ => none

/-- the totals that are asked for, in their order -/
def totalsAsked (xs : List Effect) : List StatsOptions := xs.filterMap Effect.totals?

/-- the totals that came, in their order -/
def totalsCame (es : List Event) : List (Answer Stats) := es.filterMap Event.totals?

theorem totalsAsked_append (xs ys : List Effect) :
    totalsAsked (xs ++ ys) = totalsAsked xs ++ totalsAsked ys := List.filterMap_append

namespace Browser

def scope (b : Browser) : StatsOptions :=
  { account := b.account, attachmentsOnly := b.attachmentsOnly }

def header (b : Browser) : Option Stats × StatsOptions := (b.stats, b.scope)

/-- what a step does to the totals and their scope -/
inductive Measured (b : Browser) (s : Step) : Prop where
  | kept (hx : totalsAsked s.2 = []) (hs : s.1.header = b.header)
  | asked (hx : totalsAsked s.2 = [s.1.scope]) (ht : s.1.stats = b.stats)
  | below (hx : totalsAsked s.2 = []) (hl : b.view.level ≠ .groups) (only : Bool)
      (hs : s.1.header = (b.stats, { b.scope with attachmentsOnly := only }))

variable {b c : Browser} {s : Step} {e : Event}

theorem Measured.after (h : Measured c s) (hs : c.header = b.header)
    (hl : c.view.level = b.view.level) : Measured b s := by
  have ht : c.stats = b.stats := congrArg Prod.fst hs
  have hc : c.scope = b.scope := congrArg Prod.snd hs
  cases h with
  | kept hx hk => exact .kept hx (hk.trans hs)
  | asked hx hk => exact .asked hx (hk.trans ht)
  | below hx hn only hk => exact .below hx (hl ▸ hn) only (by rw [hk, ht, hc])

theorem header_of_standing (h : c.standing = b.standing) : c.header = b.header := by
  simp only [standing, Prod.mk.injEq] at h
  obtain ⟨-, -, -, -, ht, ha, ho, -⟩ := h
  unfold header scope
  rw [ht, ha, ho]

variable (b)

/-! ## loads -/

theorem reload_totals : totalsAsked b.reload.2 = [] := by
  unfold reload
  split
  · rfl
  · rfl
  · split <;> rfl
  · rfl
  · split <;> rfl

theorem reload_header : b.reload.1.header = b.header := header_of_standing (reload_standing b)

theorem reload_measured : Measured b b.reload := .kept (reload_totals b) (reload_header b)

theorem loadMore_measured : Measured b b.loadMore := by
  unfold loadMore
  dsimp only
  split <;> exact .kept rfl rfl

theorem loadMoreDeep_measured : Measured b b.loadMoreDeep := by
  unfold loadMoreDeep
  dsimp only
  split <;> exact .kept rfl rfl

/-! ## cursors -/

theorem moveCursor_measured (delta : Int) : Measured b (b.moveCursor delta) := by
  unfold moveCursor
  split
  · unfold scrollReading
    dsimp only
    split
    · exact .kept rfl rfl
    · split <;> exact .kept rfl rfl
  · exact .kept rfl rfl
  · exact (loadMore_measured _).after rfl rfl

theorem toStart_measured : Measured b b.toStart := by
  unfold toStart
  split <;> exact .kept rfl rfl

theorem toEnd_measured : Measured b b.toEnd := by
  unfold toEnd
  split
  · exact .kept rfl rfl
  · exact .kept rfl rfl
  · exact (loadMore_measured _).after rfl rfl

theorem pageDown_measured (rows : Nat) : Measured b (b.pageDown rows) := by
  unfold pageDown
  split
  · exact loadMoreDeep_measured b
  · dsimp only
    split
    · have hl := (moveCursor_quietly b rows).sameScene.level
      exact (loadMoreDeep_measured _).after (header_of_standing (moveCursor_standing b rows)) hl
    · exact moveCursor_measured b rows

/-! ## from view to view -/

theorem drill_measured : Measured b b.drill := by
  unfold drill
  split <;> exact .kept rfl rfl

theorem showAll_measured : Measured b b.showAll := by
  unfold showAll
  dsimp only
  split <;> exact .kept rfl rfl

theorem groupByTime_measured : Measured b b.groupByTime := by
  unfold groupByTime
  split <;> exact .kept rfl rfl

theorem openMessage_measured (fromThread : Bool) : Measured b (b.openMessage fromThread) := by
  unfold openMessage
  dsimp only
  split <;> exact .kept rfl rfl

theorem openThread_measured : Measured b b.openThread := by
  unfold openThread
  split <;> exact .kept rfl rfl

theorem turnMessage_measured (delta : Int) : Measured b (b.turnMessage delta) := by
  unfold turnMessage
  dsimp only
  split
  · exact .kept rfl rfl
  · split
    · exact .kept rfl rfl
    · split <;> exact .kept rfl rfl

theorem goBack_measured : Measured b b.goBack := by
  unfold goBack
  split
  · exact .kept rfl rfl
  · dsimp only
    split
    · exact .kept rfl rfl
    · exact .kept (reload_totals _) (reload_header _)

theorem selectAccount_measured (choice : Nat) : Measured b (b.selectAccount choice) :=
  .asked rfl rfl

/-- Totals are asked for at the top, and nowhere else. -/
theorem setAttachmentsOnly_measured (only : Bool) : Measured b (b.setAttachmentsOnly only) := by
  unfold setAttachmentsOnly
  dsimp only
  split
  · refine .asked ?_ (congrArg Prod.fst (reload_header _))
    rw [totalsAsked_append, reload_totals]
    rfl
  · rename_i hl
    rw [reload_view] at hl
    exact .below (reload_totals _) hl only (reload_header _)

theorem pressTime_measured : Measured b b.pressTime := by
  unfold pressTime
  split
  · exact .kept rfl rfl
  · split <;> exact .kept rfl rfl

theorem nextSort_measured : Measured b b.nextSort := by
  unfold nextSort
  split
  · exact .kept rfl rfl
  · exact .kept rfl rfl
  · exact (reload_measured _).after rfl rfl
  · exact .kept rfl rfl

theorem flipSort_measured : Measured b b.flipSort := by
  unfold flipSort
  split
  · exact .kept rfl rfl
  · exact .kept rfl rfl
  · exact (reload_measured _).after rfl rfl
  · exact .kept rfl rfl

/-! ## the search line -/

theorem openSearch_measured : Measured b b.openSearch := by
  unfold openSearch
  split <;> exact .kept rfl rfl

theorem clearSearch_totals : totalsAsked b.clearSearch.2 = [] := by
  unfold clearSearch
  dsimp only
  split <;> rfl

theorem clearSearch_header : b.clearSearch.1.header = b.header :=
  (header_of_standing (clearSearch_standing b)).trans rfl

theorem cancelSearch_measured : Measured b b.cancelSearch := by
  unfold cancelSearch
  dsimp only
  split
  · exact .kept (clearSearch_totals _) (clearSearch_header _)
  · split
    · exact .kept rfl rfl
    · split <;> exact .kept rfl rfl

theorem commitSearch_measured : Measured b b.commitSearch := by
  unfold commitSearch
  dsimp only
  split
  · exact cancelSearch_measured b
  · split
    · exact .kept rfl rfl
    · split <;> exact .kept rfl rfl
    · split <;> exact .kept rfl rfl
    · exact .kept rfl rfl

theorem toggleMode_measured : Measured b b.toggleMode := by
  unfold toggleMode
  split
  · dsimp only
    split <;> exact .kept rfl rfl
  · exact .kept rfl rfl

theorem applyQuery_measured (query : String) : Measured b (b.applyQuery query) := by
  unfold applyQuery
  dsimp only
  split
  · split
    · exact .kept (clearSearch_totals _) (clearSearch_header _)
    · exact .kept rfl rfl
  all_goals exact .kept rfl rfl

theorem ticked_measured (query : String) (token : Nat) : Measured b (b.ticked query token) := by
  unfold ticked
  split
  · exact applyQuery_measured b _
  · exact .kept rfl rfl

/-! ## marks, batches, files -/

theorem stageMarked_measured (orCurrent : Bool) : Measured b (b.stageMarked orCurrent) := by
  have hm : (if orCurrent && b.selection.isEmpty then b.toggleMark else b).header = b.header := by
    split
    · exact (header_of_standing (toggleMark_standing b)).trans rfl
    · rfl
  unfold stageMarked
  dsimp only
  generalize (if orCurrent && b.selection.isEmpty then b.toggleMark else b) = d at hm
  split <;> exact .kept rfl hm

theorem openExport_measured : Measured b b.openExport := by
  unfold openExport
  split <;> exact .kept rfl rfl

theorem exportChosen_measured (chosen : OrdSet Nat) : Measured b (b.exportChosen chosen) := by
  unfold exportChosen
  split
  · exact .kept rfl rfl
  · dsimp only
    split <;> exact .kept rfl rfl

/-! ## all steps -/

variable {b}

theorem KeyStep.measured (h : KeyStep b s) : Measured b s := by
  cases h with
  | chooseAccount cursor => exact (selectAccount_measured _ cursor).after rfl rfl
  | chooseScope cursor => exact (setAttachmentsOnly_measured _ _).after rfl rfl
  | chooseFiles cursor chosen => exact (exportChosen_measured _ chosen).after rfl rfl
  | cancelLine => exact cancelSearch_measured b
  | commitLine => exact commitSearch_measured b
  | toggleMode => exact toggleMode_measured b
  | find input k => exact .kept rfl (header_of_standing (pressInFind_standing b input k))
  | moveCursor delta => exact moveCursor_measured b delta
  | pageDown rows => exact pageDown_measured b rows
  | toStart => exact toStart_measured b
  | toEnd => exact toEnd_measured b
  | drill => exact drill_measured b
  | showAll => exact showAll_measured b
  | groupByTime => exact groupByTime_measured b
  | openMessage fromThread => exact openMessage_measured b fromThread
  | openThread => exact openThread_measured b
  | goBack => exact goBack_measured b
  | pressTime => exact pressTime_measured b
  | nextSort => exact nextSort_measured b
  | flipSort => exact flipSort_measured b
  | openSearch => exact openSearch_measured b
  | cancelSearch => exact cancelSearch_measured b
  | toggleMark => exact .kept rfl ((header_of_standing (toggleMark_standing b)).trans rfl)
  | markVisible => exact .kept rfl ((header_of_standing (markVisible_standing b)).trans rfl)
  | stageMarked orCurrent => exact stageMarked_measured b orCurrent
  | turnMessage delta => exact turnMessage_measured b delta
  | stepHit forward => exact .kept rfl (header_of_standing (stepHit_standing b forward))
  | openExport => exact openExport_measured b
  | _ => exact .kept rfl rfl

/-- **Every step but an answer keeps the totals.  It keeps their scope, asks for the totals of
another, or narrows or widens the scope below the top.** -/
theorem update_measured (b : Browser) (he : e.totals? = none) : Measured b (b.update e) := by
  cases hn : e.isNews with
  | true =>
    obtain ⟨c, hc, hs, -⟩ := update_news b hn
    rw [hc]
    exact .kept rfl (header_of_standing hs)
  | false =>
    cases e with
    | key k => exact (press_keyStep b k).measured
    | searchTick query token => exact ticked_measured b query token
    | statsLoaded result => cases he
    | manifestBuilt result =>
      show Measured b (b.manifestBuilt result)
      unfold manifestBuilt
      dsimp only
      split <;> exact .kept rfl rfl
    | manifestSaved result =>
      show Measured b (b.manifestSaved result)
      unfold manifestSaved
      dsimp only
      split <;> exact .kept rfl rfl
    | exportFinished result =>
      show Measured b (b.exportFinished result)
      unfold exportFinished
      dsimp only
      split <;> exact .kept rfl rfl
    | _ => cases hn

/-- An answer changes the totals, and nothing that later totals depend on. -/
theorem update_of_totals {r : Answer Stats} (he : e.totals? = some r) :
    totalsAsked (b.update e).2 = [] ∧ (b.update e).1.scope = b.scope := by
  cases e with
  | statsLoaded result => cases result <;> exact ⟨rfl, rfl⟩
  | _ => cases he

/-! ## sessions -/

/-- The totals asked for last are of this scope, and it was the scope at some time since then. -/
structure AskedLast (c : Config) (es : List Event) (o : StatsOptions) : Prop where
  last : (totalsAsked (session c es).2).getLast? = some o
  scope : ∃ before, before <+: es ∧
    totalsAsked (session c before).2 = totalsAsked (session c es).2 ∧ (session c before).1.scope = o

/-- The scope was changed somewhere below the top since totals were last asked for. -/
def ChangedBelow (c : Config) (es : List Event) : Prop :=
  ∃ before e after, es = before ++ e :: after ∧
    totalsAsked (session c before).2 = totalsAsked (session c es).2 ∧
    (session c before).1.view.level ≠ .groups ∧
    ((session c before).1.update e).1.attachmentsOnly ≠ (session c before).1.attachmentsOnly

variable {cfg : Config} {es : List Event} {o : StatsOptions}

theorem totalsAsked_concat (c : Config) (es : List Event) (e : Event) :
    totalsAsked (session c (es ++ [e])).2 =
      totalsAsked (session c es).2 ++ totalsAsked ((session c es).1.update e).2 := by
  rw [session_effects, totalsAsked_append]

theorem totalsAsked_quiet (hx : totalsAsked ((session cfg es).1.update e).2 = []) :
    totalsAsked (session cfg (es ++ [e])).2 = totalsAsked (session cfg es).2 := by
  rw [totalsAsked_concat, hx, List.append_nil]

theorem asked_of_scope
    (hx : totalsAsked ((session cfg es).1.update e).2 = [((session cfg es).1.update e).1.scope]) :
    (totalsAsked (session cfg (es ++ [e])).2).getLast? =
      some (session cfg (es ++ [e])).1.scope := by
  rw [totalsAsked_concat, hx, session_concat, List.getLast?_concat]

theorem AskedLast.concat (h : AskedLast cfg es o)
    (hx : totalsAsked ((session cfg es).1.update e).2 = []) : AskedLast cfg (es ++ [e]) o := by
  obtain ⟨hl, before, hp, ht, hs⟩ := h
  rw [← totalsAsked_quiet hx] at hl ht
  exact ⟨hl, before, hp.trans (List.prefix_append _ _), ht, hs⟩

theorem ChangedBelow.concat (h : ChangedBelow cfg es)
    (hx : totalsAsked ((session cfg es).1.update e).2 = []) : ChangedBelow cfg (es ++ [e]) := by
  obtain ⟨before, f, after, rfl, ht, hl, hn⟩ := h
  exact ⟨before, f, after ++ [e], by simp, by rw [totalsAsked_quiet hx, ht], hl, hn⟩

/-- what holds between the last totals that were asked for and the scope -/
def Follows (c : Config) (es : List Event) (o : StatsOptions) : Prop :=
  o = (session c es).1.scope ∨ (o.account = (session c es).1.account ∧ ChangedBelow c es)

theorem Follows.concat (h : Follows cfg es o)
    (hx : totalsAsked ((session cfg es).1.update e).2 = [])
    (hs : ((session cfg es).1.update e).1.scope = (session cfg es).1.scope) :
    Follows cfg (es ++ [e]) o := by
  unfold Follows
  rw [session_concat, hs]
  refine h.imp id fun ⟨ha, hn⟩ => ⟨?_, hn.concat hx⟩
  rw [ha]
  exact (congrArg StatsOptions.account hs).symm

theorem session_follows (c : Config) (es : List Event) :
    ∃ o, AskedLast c es o ∧ Follows c es o := by
  induction es using List.reverseRecOn with
  | nil => exact ⟨(launch c).1.scope, ⟨rfl, [], List.prefix_refl _, rfl, rfl⟩, .inl rfl⟩
  | append_singleton es e ih =>
    obtain ⟨o, hl, hf⟩ := ih
    cases he : e.totals? with
    | some r =>
      obtain ⟨hx, hs⟩ := update_of_totals (b := (session c es).1) he
      exact ⟨o, hl.concat hx, hf.concat hx hs⟩
    | none =>
      cases update_measured (session c es).1 he with
      | kept hx hs => exact ⟨o, hl.concat hx, hf.concat hx (congrArg Prod.snd hs)⟩
      | asked hx ht =>
        exact ⟨_, ⟨asked_of_scope hx, es ++ [e], List.prefix_refl _, rfl, rfl⟩, .inl rfl⟩
      | below hx hn only hs =>
        have hs : ((session c es).1.update e).1.scope =
            { (session c es).1.scope with attachmentsOnly := only } := congrArg Prod.snd hs
        by_cases ho : only = (session c es).1.attachmentsOnly
        · refine ⟨o, hl.concat hx, hf.concat hx ?_⟩
          rw [hs, ho]
          rfl
        · refine ⟨o, hl.concat hx, .inr ⟨?_, es, e, [], rfl, (totalsAsked_quiet hx).symm, hn, ?_⟩⟩
          · have ha : o.account = (session c es).1.account :=
              hf.elim (fun h => by rw [h]; rfl) And.left
            rw [session_concat, ha]
            exact (congrArg StatsOptions.account hs).symm
          · have ha : ((session c es).1.update e).1.attachmentsOnly = only :=
              congrArg StatsOptions.attachmentsOnly hs
            rw [ha]
            exact ho

/-- What came last is shown. -/
theorem session_stats (c : Config) (es : List Event) {s : Stats}
    (h : (totalsCame es).getLast? = some (.ok s)) : (session c es).1.stats = some s := by
  induction es using List.reverseRecOn with
  | nil => cases h
  | append_singleton es e ih =>
    rw [session_concat]
    rw [totalsCame, List.filterMap_append] at h
    cases he : e.totals? with
    | some r =>
      rw [List.filterMap_cons_some he, List.filterMap_nil, List.getLast?_concat] at h
      cases h
      cases e with
      | statsLoaded r => cases he; rfl
      | _ => cases he
    | none =>
      rw [List.filterMap_cons_none he, List.filterMap_nil, List.append_nil] at h
      rw [← ih h]
      cases update_measured (session c es).1 he with
      | kept hx hs => exact congrArg Prod.fst hs
      | asked hx ht => exact ht
      | below hx hn only hs => exact congrArg Prod.fst hs

/-- **When all totals that were asked for have come, those asked for last as the last ones, these are
on screen.  They are of the scope that was when they were asked for, and it is the scope still,
unless that was changed below the top since.**  All answers are from one engine, and without
errors. -/
theorem totals_follow (engine : Engine) (c : Config) (es : List Event)
    (answered : List StatsOptions) (hall : answered.Perm (totalsAsked (session c es).2))
    (hlast : answered.getLast? = (totalsAsked (session c es).2).getLast?)
    (hcame : totalsCame es = answered.map engine.stats)
    (hok : ∀ o ∈ answered, ∃ s, engine.stats o = .ok s) :
    ∃ o s, AskedLast c es o ∧ engine.stats o = .ok s ∧ (session c es).1.stats = some s ∧
      (o = (session c es).1.scope ∨
        (o.account = (session c es).1.account ∧ ChangedBelow c es)) := by
  obtain ⟨o, ho, hf⟩ := session_follows c es
  obtain ⟨s, hs⟩ := hok o (hall.mem_iff.2 (List.mem_of_getLast? ho.last))
  refine ⟨o, s, ho, hs, session_stats c es ?_, hf⟩
  rw [hcame, List.getLast?_map, hlast, ho.last, Option.map_some, hs]

/-- an engine that only counts: less in one account than in all, and less with attachments -/
def counting : Engine :=
  { Engine.failing (.io "") with
    stats := fun o => .ok
      { messages := (if o.account.isSome then 0 else 2) + if o.attachmentsOnly then 1 else 2 } }

/-- One account is chosen, and then the messages with attachments, over the rows at the top. -/
def narrowed : List Event :=
  [.statsLoaded (counting.stats {}), .accountsLoaded (.ok [{ id := 7 }]),
    .key (.char 'A'), .key .down, .key .enter, .statsLoaded (counting.stats { account := some 7 }),
    .key (.char 'f'), .key .down, .key .enter,
    .statsLoaded (counting.stats { account := some 7, attachmentsOnly := true })]

theorem totals_follow_narrowed :
    (∀ o ∈ totalsAsked (session {} narrowed).2, ∃ s, counting.stats o = .ok s) ∧
      totalsCame narrowed = (totalsAsked (session {} narrowed).2).map counting.stats ∧
      ∃ o s, AskedLast {} narrowed o ∧ counting.stats o = .ok s ∧
        (session {} narrowed).1.stats = some s ∧
        (o = (session {} narrowed).1.scope ∨
          (o.account = (session {} narrowed).1.account ∧ ChangedBelow {} narrowed)) := by
  have hok : ∀ o ∈ totalsAsked (session {} narrowed).2, ∃ s, counting.stats o = .ok s :=
    fun o _ => ⟨_, rfl⟩
  have hcame : totalsCame narrowed = (totalsAsked (session {} narrowed).2).map counting.stats := by
    decide +kernel
  exact ⟨hok, hcame, totals_follow counting {} narrowed _ (.refl _) rfl hcame hok⟩

/-- The scope is changed in the list of all messages, and the totals stay those of all messages. -/
theorem totals_lag :
    ¬ ∀ (engine : Engine) (c : Config) (es : List Event) (answered : List StatsOptions),
      answered.Perm (totalsAsked (session c es).2) → totalsCame es = answered.map engine.stats →
      (∀ o ∈ answered, ∃ s, engine.stats o = .ok s) →
      ∃ s, engine.stats (session c es).1.scope = .ok s ∧ (session c es).1.stats = some s := by
  intro h
  obtain ⟨s, hs, ht⟩ := h counting {}
    [.statsLoaded (counting.stats {}), .key (.char 'a'), .key (.char 'f'), .key .down,
      .key .enter] [{}] (by decide +kernel) (by decide +kernel) (fun o _ => ⟨_, rfl⟩)
  cases hs
  revert ht
  decide +kernel

end Browser
end MailBrowser
