import MailBrowser.Proofs.Browser.Standing
import MailBrowser.Proofs.Browser.Ways
import MailBrowser.Proofs.Search.Ticks
import MailBrowser.Proofs.Text.Trimming

/-!
# What is searched for

A query gets into a view by a search of a text without outer blanks, by going back to a view that
had it, or from the rows to their messages; otherwise views begin without one.

* `Browser.queries`   the queries of the view on screen and of those on the way back;
* `Browser.Seek`      what a step does to them and to the open line;
* `update_seek`       every step but a tick does one of these;
* `Trimmed`           no query has outer blanks.
-/

namespace MailBrowser
namespace Browser
open Text

def queries (b : Browser) : List String := b.view.query :: b.crumbs.map fun c => c.view.query

/-- The keys go to the search line. -/
structure InLine (b : Browser) : Prop where
  idle : b.busy = none
  noDialog : b.dialog = none
  open_ : b.search.active = true

/-- what a step does to the queries, and to the line if it is open after it -/
inductive Seek (b : Browser) (e : Event) (s : Step) : Prop where
  | kept (hl : s.1.line = b.line) (hq : s.1.queries = b.queries)
  /-- what has been searched for stands in the line -/
  | opened (hc : b.search.active = false) (hi : s.1.search.input = b.view.query)
      (hq : s.1.queries = b.queries)
  | typed (delay : Nat) (hx : s.2 = [.searchTick delay s.1.search.input s.1.search.token])
      (hq : s.1.queries = b.queries)
  | applied (hi : (trim b.search.input).isEmpty = false) (hs : s.1.search.input = b.search.input)
      (ht : b.search.token < s.1.search.token)
      (hq : s.1.queries = trim b.search.input :: b.queries.tail)
  | blank (he : e = .key .tab) (hb : b.InLine) (hl : b.view.level = .list)
      (hi : (trim b.search.input).isEmpty = true)
      (hs : s = (b.withSearch { b.search with mode := b.search.mode.other }.bumpToken).still)
  | closed (hc : s.1.search.active = false) (hq : ∀ q ∈ s.1.queries, q ∈ b.queries ∨ trim q = q)

variable {b c : Browser} {e : Event} {s : Step}

theorem queries_of_standing (h : c.standing = b.standing) : c.queries = b.queries := by
  simp only [standing, Prod.mk.injEq] at h
  obtain ⟨-, -, hq, hc, -⟩ := h
  unfold queries
  rw [hc, hq]

/-- Where no line is open, a quiet step opens none. -/
theorem seek_of_quietly (ha : b.search.active = false) (h : Quietly b s)
    (hs : s.1.standing = b.standing) : Seek b e s :=
  .closed (h.sameScene.active.trans ha) fun _ hm => .inl (queries_of_standing hs ▸ hm)

/-! ## from view to view -/

/-- a view with a text that was trimmed, before queries that were there -/
theorem mem_trimmed (b : Browser) {text : String} (ht : trim text = text) {qs : List String}
    (hqs : qs ⊆ b.queries) : ∀ q ∈ text :: qs, q ∈ b.queries ∨ trim q = q := by
  intro q hq
  rcases List.mem_cons.1 hq with rfl | hq
  · exact .inr ht
  · exact .inl (hqs hq)

theorem drill_seek : Seek b e b.drill := by
  unfold drill
  split
  · exact .kept rfl rfl
  · exact .closed rfl (mem_trimmed b trim_empty fun _ => id)

theorem showAll_seek : Seek b e b.showAll := by
  unfold showAll
  dsimp only
  split
  · exact .closed rfl (mem_trimmed b trim_empty fun _ => id)
  · refine .closed rfl fun q hq => .inl ?_
    rcases List.mem_cons.1 hq with rfl | hq
    · exact List.mem_cons_self
    · exact hq

theorem groupWithin_seek (d : Dimension) : Seek b e (b.groupWithin d) :=
  .closed rfl (mem_trimmed b trim_empty fun _ => id)

theorem groupByTime_seek : Seek b e b.groupByTime := by
  unfold groupByTime
  split
  · exact groupWithin_seek .time
  · exact .kept rfl rfl

/-- The view that is left has the same query as the one below it. -/
theorem mem_repeated {q : String} (hq : q ∈ b.view.query :: b.queries) : q ∈ b.queries := by
  rcases List.mem_cons.1 hq with rfl | hq
  · exact List.mem_cons_self
  · exact hq

theorem openMessage_seek (ha : b.search.active = false) (fromThread : Bool) :
    Seek b e (b.openMessage fromThread) := by
  unfold openMessage
  dsimp only
  split
  · exact .kept rfl rfl
  · exact .closed ha fun _ hq => .inl (mem_repeated hq)

theorem openThread_seek (ha : b.search.active = false) : Seek b e b.openThread := by
  unfold openThread
  split
  · exact .kept rfl rfl
  · exact .closed ha fun _ hq => .inl (mem_repeated hq)

theorem turnMessage_seek (delta : Int) : Seek b e (b.turnMessage delta) := by
  unfold turnMessage
  dsimp only
  split
  · exact .kept rfl rfl
  · split
    · exact .kept rfl rfl
    · split
      · exact .kept rfl rfl
      · unfold followReading
        split <;> exact .kept rfl rfl

theorem goBack_seek : Seek b e b.goBack := by
  cases hc : b.crumbs with
  | nil =>
    unfold goBack
    rw [hc]
    exact .kept rfl rfl
  | cons crumb rest =>
    have hq : (b.resume crumb rest).queries ⊆ b.queries := by
      intro q hq
      unfold queries at hq ⊢
      rw [query_resume] at hq
      rw [hc]
      exact List.mem_cons_of_mem _ hq
    rw [goBack_eq hc]
    split
    · exact .closed rfl fun q hm => .inl (hq hm)
    · refine .closed ?_ fun q hm => .inl (hq ?_)
      · exact (reload_samePlace _).active
      · rwa [queries_of_standing (reload_standing _)] at hm

theorem goToTop_seek : Seek b e b.goToTop :=
  .closed rfl (mem_trimmed b trim_empty fun _ h => nomatch h)

theorem pressTime_seek : Seek b e b.pressTime := by
  unfold pressTime
  split
  · exact .kept rfl rfl
  · split <;> exact .kept rfl rfl

theorem nextSort_seek : Seek b e b.nextSort := by
  unfold nextSort
  split
  · exact .kept rfl rfl
  · exact .kept rfl rfl
  · exact .kept (reload_line _) (queries_of_standing (reload_standing _))
  · exact .kept rfl rfl

theorem flipSort_seek : Seek b e b.flipSort := by
  unfold flipSort
  split
  · exact .kept rfl rfl
  · exact .kept rfl rfl
  · exact .kept (reload_line _) (queries_of_standing (reload_standing _))
  · exact .kept rfl rfl

/-! ## marks, batches, files -/

theorem stageMarked_seek (orCurrent : Bool) : Seek b e (b.stageMarked orCurrent) := by
  have hm : (if orCurrent && b.selection.isEmpty then b.toggleMark else b).line = b.line ∧
      (if orCurrent && b.selection.isEmpty then b.toggleMark else b).queries = b.queries := by
    split
    · exact ⟨toggleMark_line b, (queries_of_standing (toggleMark_standing b)).trans rfl⟩
    · exact ⟨rfl, rfl⟩
  unfold stageMarked
  dsimp only
  generalize (if orCurrent && b.selection.isEmpty then b.toggleMark else b) = d at hm
  split <;> exact .kept hm.1 hm.2

theorem openExport_seek : Seek b e b.openExport := by
  unfold openExport
  split <;> exact .kept rfl rfl

theorem exportChosen_kept (b : Browser) (chosen : OrdSet Nat) :
    (b.exportChosen chosen).1.line = b.line ∧ (b.exportChosen chosen).1.queries = b.queries := by
  unfold exportChosen
  split
  · exact ⟨rfl, rfl⟩
  · dsimp only
    split <;> exact ⟨rfl, rfl⟩

/-! ## the line -/

theorem openSearch_seek (ha : b.search.active = false) : Seek b e b.openSearch := by
  unfold openSearch
  split
  · exact .opened ha rfl rfl
  · exact .kept rfl rfl

theorem clearSearch_queries (b : Browser) : b.clearSearch.1.queries = "" :: b.queries.tail :=
  queries_of_standing (clearSearch_standing b)

theorem tail_queries_subset (b : Browser) : b.queries.tail ⊆ b.queries :=
  (List.tail_sublist b.queries).subset

theorem cancelSearch_seek : Seek b e b.cancelSearch := by
  have htail := tail_queries_subset b
  unfold cancelSearch
  dsimp only
  split
  · refine .closed (congrArg (·.2.1) (clearSearch_line _)) ?_
    show ∀ q ∈ (clearSearch _).1.queries, _
    rw [clearSearch_queries]
    exact mem_trimmed b trim_empty htail
  · split
    · exact .closed rfl fun _ hq => .inl hq
    · split <;> exact .closed rfl (mem_trimmed b trim_empty htail)

theorem commitSearch_seek : Seek b e b.commitSearch := by
  have hsame : ∀ q ∈ b.queries, q ∈ b.queries ∨ trim q = q := fun _ hq => .inl hq
  have hnew := mem_trimmed b (trim_trim b.search.input) (tail_queries_subset b)
  unfold commitSearch
  dsimp only
  split
  · exact cancelSearch_seek
  · split
    · exact .closed rfl hnew
    · split
      · exact .closed rfl hsame
      · exact .closed rfl hnew
    · split
      · exact .closed rfl hsame
      · exact .closed rfl hnew
    · exact .closed rfl hsame

theorem toggleMode_seek (hb : b.InLine) : Seek b (.key .tab) b.toggleMode := by
  unfold toggleMode
  split
  · rename_i hl
    dsimp only
    split
    · rename_i hi
      exact .blank rfl hb hl hi rfl
    · rename_i hi
      exact .applied (Bool.eq_false_iff.2 hi) rfl (Nat.lt_succ_self _) rfl
  · exact .kept rfl rfl

theorem pressInSearch_seek (hb : b.InLine) (k : Key) : Seek b (.key k) (b.pressInSearch k) := by
  unfold pressInSearch
  split
  · exact cancelSearch_seek
  · exact commitSearch_seek
  · exact toggleMode_seek hb
  · exact .typed _ rfl rfl
  · exact .typed _ rfl rfl
  · exact .typed _ rfl rfl
  · exact .kept rfl rfl

/-! ## all steps -/

/-- Keys that do not go to the line follow the other rules. -/
theorem KeyStep.seek (h : KeyStep b s) (hn : ¬ b.InLine) : Seek b e s := by
  cases h with
  | cancelLine hd hi ha => exact absurd ⟨hi, hd, ha⟩ hn
  | commitLine hd hi ha => exact absurd ⟨hi, hd, ha⟩ hn
  | toggleMode hd hi ha => exact absurd ⟨hi, hd, ha⟩ hn
  | typed input hd hi ha => exact absurd ⟨hi, hd, ha⟩ hn
  | chooseAccount cursor => exact .closed rfl (mem_trimmed b trim_empty fun _ h => nomatch h)
  | chooseScope cursor =>
    exact .kept (reload_line _) ((queries_of_standing (reload_standing _)).trans rfl)
  | chooseFiles cursor chosen =>
    have h := exportChosen_kept { b with dialog := none } chosen
    exact .kept h.1 h.2
  | find input k =>
    exact .kept (pressInFind_line b input k) (queries_of_standing (pressInFind_standing b input k))
  | moveCursor delta hb =>
    exact seek_of_quietly hb.noLine (moveCursor_quietly b delta) (moveCursor_standing b delta)
  | pageDown rows hb =>
    exact seek_of_quietly hb.noLine (pageDown_quietly b rows) (pageDown_standing b rows)
  | toStart hb => exact seek_of_quietly hb.noLine (toStart_quietly b) (toStart_standing b)
  | toEnd hb => exact seek_of_quietly hb.noLine (toEnd_quietly b) (toEnd_standing b)
  | drill => exact drill_seek
  | showAll => exact showAll_seek
  | groupBy => exact groupWithin_seek _
  | groupByTime => exact groupByTime_seek
  | openMessage fromThread hb => exact openMessage_seek hb.noLine fromThread
  | openThread hb => exact openThread_seek hb.noLine
  | goBack => exact goBack_seek
  | goToTop => exact goToTop_seek
  | pressTime => exact pressTime_seek
  | nextSort => exact nextSort_seek
  | flipSort => exact flipSort_seek
  | openSearch hb => exact openSearch_seek hb.noLine
  | cancelSearch => exact cancelSearch_seek
  | toggleMark =>
    exact .kept (toggleMark_line b) ((queries_of_standing (toggleMark_standing b)).trans rfl)
  | markVisible =>
    exact .kept (markVisible_line b) ((queries_of_standing (markVisible_standing b)).trans rfl)
  | stageMarked orCurrent => exact stageMarked_seek orCurrent
  | turnMessage delta => exact turnMessage_seek delta
  | stepHit forward =>
    exact .kept (stepHit_line b forward) (queries_of_standing (stepHit_standing b forward))
  | openExport => exact openExport_seek
  | _ => exact .kept rfl rfl

/-- Every key but the one that quits goes to the line. -/
theorem press_inLine (hb : b.InLine) {k : Key} (hk : k ≠ .ctrl 'c') :
    b.press k = b.pressInSearch k := by
  unfold press
  rw [if_neg hk, hb.idle, hb.noDialog]
  dsimp only [Option.isSome_none]
  rw [if_neg (by decide), if_pos hb.open_]

theorem press_seek (b : Browser) (k : Key) : Seek b (.key k) (b.press k) := by
  by_cases hb : b.InLine
  · by_cases hk : k = .ctrl 'c'
    · rw [hk]
      exact .kept rfl rfl
    · rw [press_inLine hb hk]
      exact pressInSearch_seek hb k
  · exact (press_keyStep b k).seek hb

theorem applyQuery_queries (b : Browser) (query : String) :
    (b.applyQuery query).1.queries = query :: b.queries.tail :=
  queries_of_standing (applyQuery_standing b query)

theorem applyQuery_line (b : Browser) (query : String) : (b.applyQuery query).1.line = b.line := by
  unfold applyQuery
  dsimp only
  split
  · split
    · exact clearSearch_line _
    · rfl
  all_goals rfl

/-- **Every step but a tick keeps the queries, types into the line, searches for what stands in it,
turns the mode of a blank line, or leaves no line open.** -/
theorem update_seek (b : Browser) (e : Event) (ht : ∀ text token, e ≠ .searchTick text token) :
    Seek b e (b.update e) := by
  cases hn : e.isNews with
  | true =>
    obtain ⟨c, hc, hs, hl⟩ := update_news b hn
    rw [hc]
    exact .kept hl (queries_of_standing hs)
  | false =>
    cases e with
    | key k => exact press_seek b k
    | searchTick text token => exact absurd rfl (ht text token)
    | statsLoaded result => cases result <;> exact .kept rfl rfl
    | manifestBuilt result =>
      show Seek b _ (b.manifestBuilt result)
      unfold manifestBuilt
      dsimp only
      split <;> exact .kept rfl rfl
    | manifestSaved result =>
      show Seek b _ (b.manifestSaved result)
      unfold manifestSaved
      dsimp only
      split <;> exact .kept rfl rfl
    | exportFinished result =>
      show Seek b _ (b.exportFinished result)
      unfold exportFinished
      dsimp only
      split <;> exact .kept rfl rfl
    | _ => cases hn

/-! ## trimmed queries -/

def Trimmed (b : Browser) : Prop := ∀ q ∈ b.queries, trim q = q

theorem Trimmed.seek (h : Trimmed b) (hs : Seek b e s) : Trimmed s.1 := by
  intro q hm
  cases hs with
  | kept hl hq => exact h q (hq ▸ hm)
  | opened hc hi hq => exact h q (hq ▸ hm)
  | typed delay hx hq => exact h q (hq ▸ hm)
  | blank he hb hl hi hs =>
    rw [hs] at hm
    exact h q hm
  | applied hi hs ht hq =>
    rw [hq] at hm
    exact (mem_trimmed b (trim_trim b.search.input) (tail_queries_subset b) q hm).elim (h q) id
  | closed hc hq => exact (hq q hm).elim (h q) id

theorem Trimmed.update (h : Trimmed b) (e : Event) : Trimmed (b.update e).1 := by
  by_cases ht : ∃ text token, e = .searchTick text token
  · obtain ⟨text, token, rfl⟩ := ht
    show Trimmed (b.ticked text token).1
    unfold ticked
    split
    · intro q hm
      rw [applyQuery_queries] at hm
      exact (mem_trimmed b (trim_trim text) (tail_queries_subset b) q hm).elim (h q) id
    · exact h
  · exact h.seek (update_seek b e fun text token he => ht ⟨text, token, he⟩)

/-- No query has outer blanks, so that the line shows it as it is when it opens. -/
theorem Reachable.trimmed (h : Reachable b) : Trimmed b :=
  h.induct (P := Trimmed) (fun _ q hq => by cases List.mem_singleton.1 hq; rfl)
    fun _ e hb => hb.update e

end Browser
end MailBrowser
