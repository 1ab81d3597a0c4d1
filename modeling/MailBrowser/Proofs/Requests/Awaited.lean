import MailBrowser.Proofs.Navigation.Stack

/-!
# What marks of loading wait for

A browser marks that it loads its view, that it searches, and that it loads a page more.  Each mark
is to go when an outcome comes that the view on screen takes in.

* `Awaits`, `AwaitsPage`, `AwaitsTick`   the effects whose outcomes take the marks away;
* `gauges`          all that the marks and what they wait for hang on;
* `LoadWay`         what a step does to the first mark;
* `SearchKept`, `SearchTurn`   what a step does to the other two;
* `Spun`            both, `KeyStep.spun` for all keys.
-/

namespace MailBrowser
namespace Browser
open Text

/-- The view on screen takes in what comes of the load. -/
def Awaits (b : Browser) : Effect → Prop
  | .loadRows id _ _ _ => id = b.ledger.current .rows ∧ b.view.level.isGrouped = true
  | .loadMessages id _ _ => id = b.ledger.current .messages ∧ b.view.level = .list
  | .loadThread id _ _ => id = b.ledger.current .messages ∧ b.view.level = .thread
  | .loadDetail id _ => id = b.ledger.current .detail ∧ b.view.level = .reading
  | _ => False

/-- The view on screen takes in the page. -/
def AwaitsPage (b : Browser) : Effect → Prop
  | .search id _ =>
    id = b.ledger.current .search ∧ b.view.level = .list ∧ b.view.query.isEmpty = false
  | _ => False

/-- The open line has a text that is searched for when the tick comes. -/
def AwaitsTick (b : Browser) : Effect → Prop
  | .searchTick _ _ token =>
    token = b.search.token ∧ b.search.active = true ∧ (trim b.search.input).isEmpty = false
  | _ => False

theorem AwaitsPage.list {b : Browser} {x : Effect} (hx : b.AwaitsPage x) :
    b.view.level = .list := by
  cases x with
  | search => exact hx.2.1
  | _ => exact False.elim hx

theorem AwaitsTick.active {b : Browser} {x : Effect} (hx : b.AwaitsTick x) :
    b.search.active = true := by
  cases x with
  | searchTick => exact hx.2.1
  | _ => exact False.elim hx

theorem AwaitsTick.text {b : Browser} {x : Effect} (hx : b.AwaitsTick x) :
    (trim b.search.input).isEmpty = false := by
  cases x with
  | searchTick => exact hx.2.2
  | _ => exact False.elim hx

/-- what the marks, and what they wait for, hang on -/
def gauges (b : Browser) : List Crumb × Level × String × Ledger × Bool × SearchSession :=
  (b.crumbs, b.view.level, b.view.query, b.ledger, b.loading, b.search)

/-! ## what steps do to the marks -/

inductive LoadWay (b : Browser) (s : Step) : Prop where
  | kept (hc : s.1.crumbs = b.crumbs) (hl : s.1.view.level = b.view.level)
      (hk : ∀ k, k ≠ .search → s.1.ledger.current k = b.ledger.current k)
      (hw : s.1.loading = true → b.loading = true)
  | asked (x : Effect) (hx : x ∈ s.2) (ha : s.1.Awaits x)
  | done (hw : s.1.loading = false)
  /-- A search is taken along from rows to messages, and with it the mark for the rows. -/
  | carried (hb : b.view.level.isGrouped = true) (hl : s.1.view.level = .list)
      (hq : s.1.view.query.isEmpty = false) (hd : b.crumbs.length < s.1.crumbs.length)
      (hw : s.1.loading = true → b.loading = true)

structure SearchKept (b : Browser) (s : Step) : Prop where
  crumbs : s.1.crumbs = b.crumbs
  level : s.1.view.level = b.view.level
  query : b.view.level = .list → s.1.view.query = b.view.query
  current : s.1.ledger.current .search = b.ledger.current .search
  loading : s.1.search.loading = true → b.search.loading = true
  more : s.1.search.loadingMore = true → b.search.loadingMore = true
  line : s.1.search.active = true → b.search.active = true ∨ b.view.level.isListed = true
  tick (x : Effect) : b.AwaitsTick x → s.1.AwaitsTick x

inductive SearchTurn (b : Browser) (s : Step) : Prop where
  | asked (x : Effect) (hx : x ∈ s.2) (ha : s.1.AwaitsPage x)
  | done (hs : s.1.search.loading = false) (hm : s.1.search.loadingMore = false)
      (ha : s.1.search.active = true → s.1.view.level.isListed = true)
  /-- The line has another text, or none. -/
  | retyped (hc : s.1.crumbs = b.crumbs) (hl : s.1.view.level = b.view.level)
      (hq : b.view.level = .list → s.1.view.query = b.view.query)
      (hk : s.1.ledger.current .search = b.ledger.current .search)
      (hs : s.1.search.loading = true → ∃ x ∈ s.2, s.1.AwaitsTick x)
      (hm : s.1.search.loadingMore = true → b.search.loadingMore = true)
      (ha : s.1.search.active = true → b.search.active = true)
  /-- The marks are taken along from a list to a message or a thread. -/
  | carried (hl : s.1.view.level.isListed = false)
      (hd : (b.view.level.isListed = false ∧ b.crumbs.length ≤ s.1.crumbs.length) ∨
        (b.view.level = .list ∧ b.crumbs.length < s.1.crumbs.length))
      (hs : s.1.search.loading = true → b.search.loading = true)
      (hm : s.1.search.loadingMore = true → b.search.loadingMore = true)
      (ha : s.1.search.active = false)

structure Spun (b : Browser) (s : Step) : Prop where
  load : LoadWay b s
  search : SearchKept b s ∨ SearchTurn b s

variable {b c : Browser} {s : Step}

theorem awaitsTick_congr (h : c.gauges = b.gauges) (x : Effect) :
    c.AwaitsTick x ↔ b.AwaitsTick x := by
  simp only [gauges, Prod.mk.injEq] at h
  unfold AwaitsTick
  rw [h.2.2.2.2.2]

theorem spun_of_gauges (h : s.1.gauges = b.gauges) : Spun b s := by
  have ht := awaitsTick_congr h
  simp only [gauges, Prod.mk.injEq] at h
  obtain ⟨hc, hl, hq, hk, hw, hs⟩ := h
  refine ⟨.kept hc hl (fun k _ => by rw [hk]) (by rw [hw]; exact id), .inl ?_⟩
  exact ⟨hc, hl, fun _ => hq, by rw [hk], by rw [hs]; exact id, by rw [hs]; exact id,
    by rw [hs]; exact .inl, fun x => (ht x).2⟩

theorem LoadWay.after (h : LoadWay c s) (hg : c.gauges = b.gauges) : LoadWay b s := by
  simp only [gauges, Prod.mk.injEq] at hg
  obtain ⟨hc, hl, -, hk, hw, -⟩ := hg
  cases h with
  | kept h1 h2 h3 h4 =>
    refine .kept (h1.trans hc) (h2.trans hl) (fun k hn => ?_) fun h => ?_
    · rw [h3 k hn, hk]
    · rw [← hw]; exact h4 h
  | asked x hx ha => exact .asked x hx ha
  | done h => exact .done h
  | carried h1 h2 h3 h4 h5 =>
    rw [hl] at h1
    rw [hc] at h4
    rw [hw] at h5
    exact .carried h1 h2 h3 h4 h5

theorem SearchTurn.after (h : SearchTurn c s) (hg : c.gauges = b.gauges) : SearchTurn b s := by
  simp only [gauges, Prod.mk.injEq] at hg
  obtain ⟨hc, hl, hq, hk, -, hs⟩ := hg
  cases h with
  | asked x hx ha => exact .asked x hx ha
  | done h1 h2 h3 => exact .done h1 h2 h3
  | retyped h1 h2 h3 h4 h5 h6 h7 =>
    rw [hl, hq] at h3
    rw [hk] at h4
    rw [hs] at h6 h7
    exact .retyped (h1.trans hc) (h2.trans hl) h3 h4 h5 h6 h7
  | carried h1 h2 h3 h4 h5 =>
    rw [hl, hc] at h2
    rw [hs] at h3 h4
    exact .carried h1 h2 h3 h4 h5

theorem SearchKept.after (h : SearchKept c s) (hg : c.gauges = b.gauges) : SearchKept b s := by
  have ht := awaitsTick_congr hg
  simp only [gauges, Prod.mk.injEq] at hg
  obtain ⟨hc, hl, hq, hk, -, hs⟩ := hg
  obtain ⟨h1, h2, h3, h4, h5, h6, h7, h8⟩ := h
  rw [hl, hq] at h3
  rw [hk] at h4
  rw [hs] at h5 h6 h7
  rw [hl] at h7
  exact ⟨h1.trans hc, h2.trans hl, h3, h4, h5, h6, h7, fun x hx => h8 x ((ht x).2 hx)⟩

theorem Spun.after (h : Spun c s) (hg : c.gauges = b.gauges) : Spun b s :=
  ⟨h.load.after hg, h.search.imp (·.after hg) (·.after hg)⟩

/-- A step from where no mark is set and no line is open, as a step from anywhere. -/
theorem Spun.of_clear (hl : c.loading = false) (hs : c.search.loading = false)
    (hm : c.search.loadingMore = false) (ha : c.search.active = false) (h : Spun c s) :
    Spun b s := by
  have unset {x y : Bool} (h : x = true → y = true) (hy : y = false) : x = false := by
    cases hx : x with
    | false => rfl
    | true => rw [h hx] at hy; cases hy
  refine ⟨?_, .inr ?_⟩
  · cases h.load with
    | kept _ _ _ hw => exact .done (unset hw hl)
    | asked x hx hw => exact .asked x hx hw
    | done hw => exact .done hw
    | carried _ _ _ _ hw => exact .done (unset hw hl)
  · rcases h.search with hk | ht
    · refine .done (unset hk.loading hs) (unset hk.more hm) fun h => ?_
      rcases hk.line h with h | h
      · rw [ha] at h; cases h
      · rw [hk.level]; exact h
    · cases ht with
      | asked x hx hp => exact .asked x hx hp
      | done h1 h2 h3 => exact .done h1 h2 h3
      | carried _ _ h3 h4 h5 =>
        exact .done (unset h3 hs) (unset h4 hm) fun h => by rw [h5] at h; cases h
      | retyped _ _ _ _ h5 h6 h7 =>
        have hline := unset h7 ha
        refine .done (Bool.eq_false_iff.2 fun h => ?_) (unset h6 hm) fun h => ?_
        · obtain ⟨x, -, hx⟩ := h5 h
          rw [hx.active] at hline
          cases hline
        · rw [hline] at h; cases h

/-! ## requests -/

theorem SearchKept.of_rfl (h : (s.1.crumbs, s.1.view.level, s.1.view.query,
      s.1.ledger.current .search, s.1.search) =
    (b.crumbs, b.view.level, b.view.query, b.ledger.current .search, b.search)) :
    SearchKept b s := by
  simp only [Prod.mk.injEq] at h
  obtain ⟨hc, hl, hq, hk, hs⟩ := h
  refine ⟨hc, hl, fun _ => hq, hk, by rw [hs]; exact id, by rw [hs]; exact id,
    by rw [hs]; exact .inl, fun x hx => ?_⟩
  unfold AwaitsTick
  rw [hs]
  exact hx

theorem LoadWay.loadRows (h : c.view.level.isGrouped = true) : LoadWay b c.loadRows :=
  .asked _ (List.mem_singleton.2 rfl) ⟨rfl, h⟩

theorem LoadWay.loadMessages (h : c.view.level = .list) : LoadWay b c.loadMessages :=
  .asked _ (List.mem_singleton.2 rfl) ⟨rfl, h⟩

theorem LoadWay.loadThread (h : c.view.level = .thread) : LoadWay b c.loadThread :=
  .asked _ (List.mem_singleton.2 rfl) ⟨rfl, h⟩

theorem LoadWay.loadDetail (h : c.view.level = .reading) (m : Int) : LoadWay b (c.loadDetail m) :=
  .asked _ (List.mem_singleton.2 rfl) ⟨rfl, h⟩

theorem SearchTurn.searchFrom (hl : c.view.level = .list) (hq : c.view.query.isEmpty = false)
    (offset : Nat) (append : Bool) : SearchTurn b (c.searchFrom offset append) :=
  .asked _ (List.mem_singleton.2 rfl) ⟨rfl, hl, hq⟩

/-- A search leaves the mark of the view as it is. -/
theorem LoadWay.searchFrom (h : (c.crumbs, c.view.level, c.ledger, c.loading) =
      (b.crumbs, b.view.level, b.ledger, b.loading)) (offset : Nat) (append : Bool) :
    LoadWay b (c.searchFrom offset append) := by
  simp only [Prod.mk.injEq] at h
  obtain ⟨hc, hl, hk, hw⟩ := h
  refine .kept hc hl (fun k hn => ?_) fun h => hw.symm.trans h
  rw [← hk]
  exact c.ledger.current_issue_of_ne hn

theorem SearchTurn.searchAfresh (hl : c.view.level = .list) (hq : c.view.query.isEmpty = false) :
    SearchTurn b c.searchAfresh :=
  SearchTurn.searchFrom (c := { c with search := c.search.forgetResults }) hl hq 0 false

theorem LoadWay.searchAfresh (h : (c.crumbs, c.view.level, c.ledger, c.loading) =
    (b.crumbs, b.view.level, b.ledger, b.loading)) : LoadWay b c.searchAfresh :=
  LoadWay.searchFrom (c := { c with search := c.search.forgetResults }) h 0 false

/-! ## transitions -/

variable (b)

theorem reload_spun : Spun b b.reload := by
  unfold reload
  split
  · rename_i hl
    exact ⟨.loadRows (by rw [hl]; rfl), .inl (.of_rfl rfl)⟩
  · rename_i hl
    exact ⟨.loadRows (by rw [hl]; rfl), .inl (.of_rfl rfl)⟩
  · rename_i hl
    split
    · exact ⟨.loadMessages hl, .inl (.of_rfl rfl)⟩
    · rename_i hq
      exact ⟨.searchAfresh rfl, .inr (.searchAfresh hl (Bool.eq_false_iff.2 hq))⟩
  · rename_i hl
    exact ⟨.loadThread hl, .inl (.of_rfl rfl)⟩
  · rename_i hl
    split
    · exact ⟨.loadDetail hl _, .inl (.of_rfl rfl)⟩
    · exact spun_of_gauges rfl

theorem page_spun {mode : SearchMode} (h : b.canLoadMore mode = true) (offset : Nat) :
    Spun b (b.searchFrom offset true) := by
  obtain ⟨hl, hq⟩ := list_of_canLoadMore h
  exact ⟨.searchFrom rfl offset true, .inr (.searchFrom hl hq offset true)⟩

theorem loadMore_spun : Spun b b.loadMore := by
  unfold loadMore
  dsimp only
  split
  · rename_i h
    simp only [Bool.and_eq_true] at h
    exact page_spun b h.1.1.1 _
  · exact spun_of_gauges rfl

theorem loadMoreDeep_spun : Spun b b.loadMoreDeep := by
  unfold loadMoreDeep
  dsimp only
  split
  · rename_i h
    simp only [Bool.and_eq_true] at h
    exact page_spun b h.1.1.1 _
  · exact spun_of_gauges rfl

/-! ### cursors -/

theorem moveCursor_spun (delta : Int) : Spun b (b.moveCursor delta) := by
  unfold moveCursor
  split
  · unfold scrollReading
    dsimp only
    split
    · exact spun_of_gauges rfl
    · split <;> exact spun_of_gauges rfl
  · exact spun_of_gauges rfl
  · exact (loadMore_spun _).after rfl

theorem toStart_spun : Spun b b.toStart := by
  unfold toStart
  split <;> exact spun_of_gauges rfl

theorem toEnd_spun : Spun b b.toEnd := by
  unfold toEnd
  split
  · exact spun_of_gauges rfl
  · exact spun_of_gauges rfl
  · exact (loadMore_spun _).after rfl

/-- A cursor that asks for nothing moves nothing else. -/
theorem moveCursor_gauges (delta : Int) (h : (b.moveCursor delta).2.isEmpty = true) :
    (b.moveCursor delta).1.gauges = b.gauges := by
  revert h
  unfold moveCursor
  split
  · unfold scrollReading
    dsimp only
    split
    · exact fun _ => rfl
    · split <;> exact fun _ => rfl
  · exact fun _ => rfl
  · unfold loadMore
    dsimp only
    split
    · intro h; cases h
    · exact fun _ => rfl

theorem pageDown_spun (rows : Nat) : Spun b (b.pageDown rows) := by
  unfold pageDown
  split
  · exact loadMoreDeep_spun b
  · dsimp only
    split
    · rename_i h
      exact (loadMoreDeep_spun _).after (moveCursor_gauges b rows h)
    · exact moveCursor_spun b rows

theorem showHit_gauges : b.showHit.gauges = b.gauges := by
  unfold showHit
  split <;> rfl

theorem stepHit_spun (forward : Bool) : Spun b (b.stepHit forward).still := by
  refine spun_of_gauges ?_
  unfold stepHit
  dsimp only
  split
  · rfl
  · exact showHit_gauges _

theorem pressInFind_spun (input : String) (k : Key) : Spun b (b.pressInFind input k).still := by
  refine spun_of_gauges ?_
  show (b.pressInFind input k).gauges = b.gauges
  unfold pressInFind
  split
  · unfold commitFind
    exact showHit_gauges _
  all_goals rfl

/-! ### from view to view -/

variable {b} in
theorem SearchTurn.closed {s : Step} (h : (s.1.search.loading, s.1.search.loadingMore,
    s.1.search.active) = (false, false, false)) : SearchTurn b s := by
  simp only [Prod.mk.injEq] at h
  exact .done h.1 h.2.1 fun ha => by rw [h.2.2] at ha; cases ha

theorem drill_spun : Spun b b.drill := by
  unfold drill
  split
  · exact spun_of_gauges rfl
  · exact ⟨.loadMessages rfl, .inr (.closed rfl)⟩

theorem showAll_spun (hl : b.view.level.isGrouped = true) : Spun b b.showAll := by
  unfold showAll
  dsimp only
  split
  · exact ⟨.loadMessages rfl, .inr (.closed rfl)⟩
  · rename_i hq
    have hq : b.view.query.isEmpty = false := by simpa using hq
    refine ⟨.carried hl rfl hq (Nat.lt_succ_self _) id, .inr (.searchFrom ?_ ?_ 0 false)⟩
    · rfl
    · exact hq

theorem groupWithin_spun (d : Dimension) : Spun b (b.groupWithin d) :=
  ⟨.loadRows rfl, .inr (.closed rfl)⟩

theorem groupByTime_spun : Spun b b.groupByTime := by
  unfold groupByTime
  split
  · exact groupWithin_spun b .time
  · exact spun_of_gauges rfl

variable {b} in
/-- A message or a thread takes the marks of a search along. -/
theorem SearchTurn.of_left {s : Step} (hl : s.1.view.level.isListed = false)
    (hb : b.view.level.isListed = false ∨ b.view.level = .list)
    (hd : s.1.crumbs.length = b.crumbs.length + 1) (hs : s.1.search = b.search)
    (ha : b.search.active = false) : SearchTurn b s := by
  refine .carried hl ?_ (by rw [hs]; exact id) (by rw [hs]; exact id) (by rw [hs]; exact ha)
  rcases hb with hb | hb
  · exact .inl ⟨hb, by omega⟩
  · exact .inr ⟨hb, by omega⟩

theorem openMessage_spun (fromThread : Bool) (ha : b.search.active = false)
    (hl : b.view.level = if fromThread then .thread else .list) :
    Spun b (b.openMessage fromThread) := by
  unfold openMessage
  dsimp only
  split
  · exact spun_of_gauges rfl
  · refine ⟨.loadDetail rfl _, .inr (.of_left rfl ?_ rfl rfl ha)⟩
    cases fromThread with
    | true => rw [hl]; exact .inl rfl
    | false => exact .inr hl

theorem turnMessage_spun (delta : Int) (hl : b.view.level = .reading) :
    Spun b (b.turnMessage delta) := by
  unfold turnMessage
  dsimp only
  split
  · exact spun_of_gauges rfl
  · split
    · exact spun_of_gauges rfl
    · split
      · exact spun_of_gauges rfl
      · unfold followReading
        split
        all_goals
          refine ⟨.loadDetail ?_ _, .inl (.of_rfl rfl)⟩
          exact hl

theorem openThread_spun (ha : b.search.active = false)
    (hl : b.view.level = .list ∨ b.view.level = .reading) : Spun b b.openThread := by
  unfold openThread
  split
  · exact spun_of_gauges rfl
  · refine ⟨.loadThread rfl, .inr (.of_left rfl ?_ rfl rfl ha)⟩
    rcases hl with hl | hl
    · exact .inr hl
    · rw [hl]; exact .inl rfl

theorem goBack_spun : Spun b b.goBack := by
  unfold goBack
  split
  · exact spun_of_gauges rfl
  · rename_i crumb rest hc
    have h : Spun (b.resume crumb rest)
        (if crumb.isKept then (b.resume crumb rest).still else (b.resume crumb rest).reload) := by
      split
      · exact spun_of_gauges rfl
      · exact reload_spun _
    exact h.of_clear rfl rfl rfl rfl

theorem goToTop_spun : Spun b b.goToTop := ⟨.loadRows rfl, .inr (.closed rfl)⟩

theorem selectAccount_spun (choice : Nat) : Spun b (b.selectAccount choice) :=
  ⟨.asked _ (List.mem_append_left _ (List.mem_singleton.2 rfl)) ⟨rfl, rfl⟩,
    .inr (.closed rfl)⟩

variable {b} in
/-- What is asked for besides changes nothing. -/
theorem Spun.asking {d : Browser} {xs : List Effect} (h : Spun b (d, xs)) (ys : List Effect) :
    Spun b (d, xs ++ ys) := by
  refine ⟨?_, h.search.imp (fun h => ?_) fun h => ?_⟩
  · cases h.load with
    | kept h1 h2 h3 h4 => exact .kept h1 h2 h3 h4
    | asked x hx ha => exact .asked x (List.mem_append_left _ hx) ha
    | done hw => exact .done hw
    | carried h1 h2 h3 h4 h5 => exact .carried h1 h2 h3 h4 h5
  · exact ⟨h.crumbs, h.level, h.query, h.current, h.loading, h.more, h.line, h.tick⟩
  · cases h with
    | asked x hx ha => exact .asked x (List.mem_append_left _ hx) ha
    | done h1 h2 h3 => exact .done h1 h2 h3
    | retyped h1 h2 h3 h4 h5 h6 h7 =>
      refine .retyped h1 h2 h3 h4 (fun hs => ?_) h6 h7
      obtain ⟨x, hx, ha⟩ := h5 hs
      exact ⟨x, List.mem_append_left _ hx, ha⟩
    | carried h1 h2 h3 h4 h5 => exact .carried h1 h2 h3 h4 h5

theorem setAttachmentsOnly_spun (only : Bool) : Spun b (b.setAttachmentsOnly only) := by
  have h : Spun b { b with
      attachmentsOnly := only
      view := { b.view with filter := { b.view.filter with attachmentsOnly := only } } }.reload :=
    (reload_spun _).after rfl
  unfold setAttachmentsOnly
  dsimp only
  split
  · exact h.asking _
  · exact h

theorem switchDimension_spun (hl : b.view.level.isGrouped = true) (d : Dimension) :
    Spun b (b.switchDimension d) := ⟨.loadRows hl, .inl (.of_rfl rfl)⟩

theorem pressTime_spun (hl : b.view.level.isGrouped = true) : Spun b b.pressTime := by
  unfold pressTime
  split
  · exact ⟨.loadRows hl, .inl (.of_rfl rfl)⟩
  · split
    · exact spun_of_gauges rfl
    · exact switchDimension_spun b hl .time

theorem nextSort_spun : Spun b b.nextSort := by
  unfold nextSort
  split
  · rename_i hl
    exact ⟨.loadRows (by rw [hl]; rfl), .inl (.of_rfl rfl)⟩
  · rename_i hl
    exact ⟨.loadRows (by rw [hl]; rfl), .inl (.of_rfl rfl)⟩
  · exact (reload_spun _).after rfl
  · exact spun_of_gauges rfl

theorem flipSort_spun : Spun b b.flipSort := by
  unfold flipSort
  split
  · rename_i hl
    exact ⟨.loadRows (by rw [hl]; rfl), .inl (.of_rfl rfl)⟩
  · rename_i hl
    exact ⟨.loadRows (by rw [hl]; rfl), .inl (.of_rfl rfl)⟩
  · exact (reload_spun _).after rfl
  · exact spun_of_gauges rfl

/-! ### marks, batches, files -/

theorem toggleMark_gauges : b.toggleMark.gauges = b.gauges := by
  unfold toggleMark
  split
  · split <;> rfl
  · split <;> rfl
  · split <;> rfl
  · rfl

theorem markVisible_gauges : b.markVisible.gauges = b.gauges := by
  unfold markVisible
  split <;> rfl

theorem stageMarked_spun (orCurrent : Bool) : Spun b (b.stageMarked orCurrent) := by
  have hm : (if orCurrent && b.selection.isEmpty then b.toggleMark else b).gauges = b.gauges := by
    split
    · exact toggleMark_gauges b
    · rfl
  unfold stageMarked
  dsimp only
  generalize (if orCurrent && b.selection.isEmpty then b.toggleMark else b) = c at hm
  split
  · exact spun_of_gauges hm
  · exact spun_of_gauges hm

theorem openExport_spun : Spun b b.openExport := by
  unfold openExport
  split <;> exact spun_of_gauges rfl

theorem exportChosen_spun (chosen : OrdSet Nat) :
    Spun b ({ b with dialog := none }.exportChosen chosen) := by
  unfold exportChosen
  split
  · exact spun_of_gauges rfl
  · dsimp only
    split <;> exact spun_of_gauges rfl

/-! ### the search line -/

theorem openSearch_spun (ha : b.search.active = false) (hl : b.view.level.isListed = true) :
    Spun b b.openSearch := by
  have hn (x : Effect) : ¬ b.AwaitsTick x := by
    intro h
    rw [h.active] at ha
    cases ha
  unfold openSearch
  dsimp only
  split
  · exact ⟨.kept rfl rfl (fun _ _ => rfl) id,
      .inl ⟨rfl, rfl, fun _ => rfl, rfl, id, id, fun _ => .inr hl, fun x hx => absurd hx (hn x)⟩⟩
  · exact spun_of_gauges rfl

theorem cancelSearch_spun : Spun b b.cancelSearch := by
  unfold cancelSearch
  dsimp only
  split
  · rename_i hc
    rw [Bool.and_eq_true, decide_eq_true_eq] at hc
    have hl : b.view.level = .list := hc.1
    unfold clearSearch
    dsimp only
    split
    · exact ⟨.kept rfl rfl (fun _ _ => rfl) id, .inr (.closed rfl)⟩
    · exact ⟨.asked _ (List.mem_singleton.2 rfl) ⟨rfl, hl⟩, .inr (.closed rfl)⟩
  · split
    · exact ⟨.kept rfl rfl (fun _ _ => rfl) id, .inr (.closed rfl)⟩
    · split
      · rename_i hl
        exact ⟨.loadMessages hl, .inr (.closed rfl)⟩
      · rename_i hl
        refine ⟨.loadRows ?_, .inr (.closed rfl)⟩
        exact congrArg Level.isGrouped hl
      · rename_i hl
        refine ⟨.loadRows ?_, .inr (.closed rfl)⟩
        exact congrArg Level.isGrouped hl
      · exact ⟨.kept rfl rfl (fun _ _ => rfl) id, .inr (.closed rfl)⟩

/-- The line may change without a search. -/
theorem LoadWay.line (t : SearchSession) (xs : List Effect) : LoadWay b (b.withSearch t, xs) :=
  .kept rfl rfl (fun _ _ => rfl) id

theorem LoadWay.results (t : SearchSession) (query : String) :
    LoadWay b ((b.withSearch t).withQuery query).searchAfresh := .searchAfresh rfl

variable {b} in
theorem SearchTurn.line {t : SearchSession} {xs : List Effect}
    (hs : t.loading = true → ∃ x ∈ xs, (b.withSearch t).AwaitsTick x)
    (hm : t.loadingMore = b.search.loadingMore) (ha : t.active = true → b.search.active = true) :
    SearchTurn b (b.withSearch t, xs) :=
  .retyped rfl rfl (fun _ => rfl) rfl hs (fun h => hm.symm.trans h) ha

theorem typed_spun (input : String) (ha : b.search.active = true) : Spun b (b.typed input) := by
  unfold typed
  dsimp only
  refine ⟨.line b _ _, .inr (.line ?_ ?_ ?_)⟩
  · intro h
    dsimp only at h
    rw [Bool.not_eq_true'] at h
    exact ⟨_, List.mem_singleton.2 rfl, rfl, ha, h⟩
  · rfl
  · exact id

theorem toggleMode_spun : Spun b b.toggleMode := by
  unfold toggleMode
  dsimp only
  split
  · rename_i hl
    split
    · rename_i hq
      -- without a text no tick is waited for
      have hn (x : Effect) : ¬ b.AwaitsTick x := fun h => Bool.eq_false_iff.1 h.text hq
      exact ⟨.kept rfl rfl (fun _ _ => rfl) id,
        .inl ⟨rfl, rfl, fun _ => rfl, rfl, id, id, .inl, fun x hx => absurd hx (hn x)⟩⟩
    · rename_i hq
      refine ⟨.results b _ _, .inr (.searchAfresh ?_ ?_)⟩
      · exact hl
      · exact Bool.eq_false_iff.2 hq
  · exact spun_of_gauges rfl

variable {b} in
/-- Rows are searched by their own loads. -/
theorem SearchTurn.of_rows {s : Step} {t : SearchSession} (hg : b.view.level.isGrouped = true)
    (h : (s.1.crumbs, s.1.view.level, s.1.ledger.current .search, s.1.search) =
      (b.crumbs, b.view.level, b.ledger.current .search, t))
    (ht : t.loading = false) (hm : t.loadingMore = b.search.loadingMore)
    (ha : t.active = true → b.search.active = true) : SearchTurn b s := by
  simp only [Prod.mk.injEq] at h
  obtain ⟨hc, hl, hk, hs⟩ := h
  refine .retyped hc hl (fun hn => ?_) hk (fun h => ?_) (by rw [hs, hm]; exact id)
    (by rw [hs]; exact ha)
  · rw [hn] at hg; cases hg
  · rw [hs, ht] at h; cases h

theorem commitRows_spun (hg : b.view.level.isGrouped = true) (query : String) {t : SearchSession}
    (ht : t.loading = false) (hm : t.loadingMore = b.search.loadingMore)
    (ha : t.active = true → b.search.active = true) :
    Spun b (if b.view.query = query then (b.withSearch t).still
      else ((b.withSearch t).withQuery query).loadRows) := by
  split
  · exact ⟨.line b t [], .inr (.of_rows hg rfl ht hm ha)⟩
  · exact ⟨.loadRows hg, .inr (.of_rows hg rfl ht hm ha)⟩

theorem unlisted {l : Level} (hl : l ≠ .list) (hg : l ≠ .groups) (hs : l ≠ .subgroups) :
    l.isListed = false := by
  cases l with
  | groups => exact absurd rfl hg
  | subgroups => exact absurd rfl hs
  | list => exact absurd rfl hl
  | reading => rfl
  | thread => rfl

theorem commitSearch_spun : Spun b b.commitSearch := by
  unfold commitSearch
  dsimp only
  split
  · exact cancelSearch_spun b
  · rename_i hq
    split
    · rename_i hl
      refine ⟨.results b _ _, .inr (.searchAfresh ?_ ?_)⟩
      · exact hl
      · exact Bool.eq_false_iff.2 hq
    · rename_i hl
      refine commitRows_spun b (congrArg Level.isGrouped hl) _ rfl rfl fun h => ?_
      cases h
    · rename_i hl
      refine commitRows_spun b (congrArg Level.isGrouped hl) _ rfl rfl fun h => ?_
      cases h
    · rename_i hl hg hs
      have hl : b.view.level.isListed = false := unlisted hl hg hs
      refine ⟨.line b _ _, .inr (.carried hl (.inl ⟨hl, ?_⟩) id id rfl)⟩
      exact Nat.le_refl _

/-! ### ticks -/

theorem applyQuery_load (query : String) : LoadWay b (b.applyQuery query) := by
  unfold applyQuery
  dsimp only
  split
  · rename_i hl
    split
    · unfold clearSearch
      dsimp only
      split
      · exact .kept rfl rfl (fun _ _ => rfl) id
      · exact .loadMessages hl
    · exact .searchAfresh rfl
  · rename_i hl
    exact .loadRows (congrArg Level.isGrouped hl)
  · rename_i hl
    exact .loadRows (congrArg Level.isGrouped hl)
  · exact .kept rfl rfl (fun _ _ => rfl) id

theorem applyQuery_turn (query : String) (h : b.view.level.isListed = true) :
    SearchTurn b (b.applyQuery query) := by
  unfold applyQuery
  dsimp only
  split
  · rename_i hl
    split
    · unfold clearSearch
      dsimp only
      split
      · exact .done rfl rfl fun _ => h
      · exact .done rfl rfl fun _ => h
    · rename_i hq
      refine .searchAfresh ?_ ?_
      · exact hl
      · exact Bool.eq_false_iff.2 hq
  · rename_i hl
    exact .of_rows (congrArg Level.isGrouped hl) rfl rfl rfl id
  · rename_i hl
    exact .of_rows (congrArg Level.isGrouped hl) rfl rfl rfl id
  · rename_i hl hg hs
    have hn : b.view.level.isListed = false := unlisted hl hg hs
    rw [hn] at h
    cases h

theorem applyQuery_spun (query : String) : Spun b (b.applyQuery query) := by
  refine ⟨applyQuery_load b query, ?_⟩
  by_cases h : b.view.level.isListed = true
  · exact .inr (applyQuery_turn b query h)
  · -- a message or a thread has the query written on it, and nothing is searched
    refine .inl ?_
    unfold applyQuery
    dsimp only
    split
    · rename_i hl
      exact absurd (congrArg Level.isListed hl) h
    · rename_i hl
      exact absurd (congrArg Level.isListed hl) h
    · rename_i hl
      exact absurd (congrArg Level.isListed hl) h
    · rename_i hl _ _
      exact ⟨rfl, rfl, fun h => absurd h hl, rfl, id, id, .inl, fun _ => id⟩

theorem ticked_spun (query : String) (token : Nat) : Spun b (b.ticked query token) := by
  unfold ticked
  split
  · exact applyQuery_spun b _
  · exact spun_of_gauges rfl

/-- A tick that counts takes the mark that it was waited for with away. -/
theorem ticked_turn (query : String) (h : b.view.level.isListed = true) :
    SearchTurn b (b.ticked query b.search.token) := by
  unfold ticked
  rw [if_pos rfl]
  exact applyQuery_turn b _ h

/-! ### all keys -/

variable {b}

theorem KeyStep.spun {s : Step} (h : KeyStep b s) : Spun b s := by
  cases h with
  | still => exact spun_of_gauges rfl
  | quit => exact spun_of_gauges rfl
  | shut => exact spun_of_gauges rfl
  | leave => exact spun_of_gauges rfl
  | ask => exact spun_of_gauges rfl
  | save => exact spun_of_gauges rfl
  | chooseAccount cursor => exact (selectAccount_spun _ cursor).after rfl
  | chooseScope cursor => exact (setAttachmentsOnly_spun _ (cursor == 1)).after rfl
  | chooseFiles cursor chosen => exact exportChosen_spun b chosen
  | cancelLine => exact cancelSearch_spun b
  | commitLine => exact commitSearch_spun b
  | toggleMode => exact toggleMode_spun b
  | typed input hd hi ha => exact typed_spun b input ha
  | find input k => exact pressInFind_spun b input k
  | moveCursor delta => exact moveCursor_spun b delta
  | pageDown rows => exact pageDown_spun b rows
  | toStart => exact toStart_spun b
  | toEnd => exact toEnd_spun b
  | drill => exact drill_spun b
  | showAll hb hl => exact showAll_spun b hl
  | groupBy => exact groupWithin_spun b _
  | groupByTime => exact groupByTime_spun b
  | openMessage fromThread hb hl => exact openMessage_spun b fromThread hb.noLine hl
  | openThread hb hl => exact openThread_spun b hb.noLine hl
  | goBack => exact goBack_spun b
  | goToTop => exact goToTop_spun b
  | turnDimension forward hb hl => exact switchDimension_spun b hl _
  | pressTime hb hl => exact pressTime_spun b hl
  | nextSort => exact nextSort_spun b
  | flipSort => exact flipSort_spun b
  | openSearch hb hl => exact openSearch_spun b hb.noLine hl
  | cancelSearch => exact cancelSearch_spun b
  | toggleMark => exact spun_of_gauges (toggleMark_gauges b)
  | markVisible => exact spun_of_gauges (markVisible_gauges b)
  | clearMarks => exact spun_of_gauges rfl
  | stageMarked orCurrent => exact stageMarked_spun b orCurrent
  | turnMessage delta hb hl => exact turnMessage_spun b delta hl
  | openFind => exact spun_of_gauges rfl
  | stepHit forward => exact stepHit_spun b forward
  | clearFind => exact spun_of_gauges rfl
  | openExport => exact openExport_spun b
  | askAccount => exact spun_of_gauges rfl
  | askScope => exact spun_of_gauges rfl
  | askHelp => exact spun_of_gauges rfl
  | askQuit => exact spun_of_gauges rfl

end Browser
end MailBrowser
