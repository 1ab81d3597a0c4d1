import Mathlib.Data.List.Induction
import MailBrowser.Proofs.Requests.Awaited
import MailBrowser.Proofs.Requests.Owed

/-!
# Nothing is marked at rest

Once all outcomes have come, the marks of loading are gone, but for two ways of leaving a view
whose own outcome is then never taken in.

* `update_spun`      what every event does to the marks;
* `LoadDue`, `SearchDue`   marks stand for what is owed, or were left behind;
* `LeavesRows`, `LeavesPage`   how they are left behind;
* `Lately`           a step from which the run has not come back;
* `unmarked_at_rest`   the marks when nothing is owed any more.
-/

namespace MailBrowser

/-- what sets a mark, or is waited for under one -/
def Effect.isLoad : Effect → Bool
  | .loadRows _ _ _ _ | .loadMessages _ _ _ | .loadThread _ _ _ | .loadDetail _ _ | .search _ _
  | .searchTick _ _ _ => true
  | _ => false

namespace Browser

variable {b c : Browser} {x : Effect} {e : Event} {s : Step} {waiting : List Effect}

/-! ## outcomes -/

theorem Spun.of_answer {d : Browser}
    (h : (d.crumbs, d.view.level, d.view.query, d.ledger, d.search.active, d.search.token,
        d.search.input) =
      (b.crumbs, b.view.level, b.view.query, b.ledger, b.search.active, b.search.token,
        b.search.input))
    (hw : d.loading = true → b.loading = true)
    (hs : d.search.loading = true → b.search.loading = true)
    (hm : d.search.loadingMore = true → b.search.loadingMore = true) : Spun b d.still := by
  simp only [Prod.mk.injEq] at h
  obtain ⟨hc, hl, hq, hk, ha, ht, hi⟩ := h
  refine ⟨.kept hc hl (fun k _ => congrArg (·.current k) hk) hw, .inl ?_⟩
  refine ⟨hc, hl, fun _ => hq, congrArg (·.current .search) hk, hs, hm, fun h => .inl ?_,
    fun x hx => ?_⟩
  · rw [← ha]; exact h
  · cases x with
    | searchTick delay query token =>
      obtain ⟨h1, h2, h3⟩ := hx
      refine ⟨h1.trans ht.symm, ha.trans h2, ?_⟩
      show (Text.trim d.search.input).isEmpty = false
      rw [hi]
      exact h3
    | _ => exact hx

theorem rowsArrived_spun (id : Nat) (r : Answer (List Row)) :
    Spun b (b.rowsArrived id r).still := by
  unfold rowsArrived
  split
  · cases r <;> exact .of_answer rfl (fun h => by cases h) (fun h => h) (fun h => h)
  · exact spun_of_gauges rfl

theorem messagesArrived_spun (id : Nat) (r : Answer (List Summary)) :
    Spun b (b.messagesArrived id r).still := by
  unfold messagesArrived
  split
  · dsimp only
    split
    · exact .of_answer rfl (fun h => by cases h) (fun h => h) (fun h => h)
    · cases r <;> exact .of_answer rfl (fun h => by cases h) (fun h => h) (fun h => h)
  · exact spun_of_gauges rfl

theorem threadArrived_spun (id : Nat) (r : Answer (List Summary)) :
    Spun b (b.threadArrived id r).still := by
  unfold threadArrived
  split
  · cases r <;> exact .of_answer rfl (fun h => by cases h) (fun h => h) (fun h => h)
  · exact spun_of_gauges rfl

theorem detailArrived_spun (id : Nat) (r : Answer (Option Detail)) :
    Spun b (b.detailArrived id r).still := by
  unfold detailArrived
  split
  · dsimp only
    split <;> exact .of_answer rfl (fun h => by cases h) (fun h => h) (fun h => h)
  · exact spun_of_gauges rfl

theorem searchArrived_spun (id : Nat) (append : Bool) (r : Answer SearchPage) :
    Spun b (b.searchArrived id append r).still := by
  unfold searchArrived
  split
  · cases r <;> exact .of_answer rfl (fun h => h) (fun h => by cases h) (fun h => by cases h)
  · exact spun_of_gauges rfl

theorem update_spun (b : Browser) (e : Event) : Spun b (b.update e) := by
  cases e with
  | key k => exact (press_keyStep b k).spun
  | resize height => exact spun_of_gauges rfl
  | rowsLoaded id r => exact rowsArrived_spun id r
  | messagesLoaded id r => exact messagesArrived_spun id r
  | threadLoaded id r => exact threadArrived_spun id r
  | detailLoaded id r => exact detailArrived_spun id r
  | searchLoaded id append r => exact searchArrived_spun id append r
  | searchTick query token => exact ticked_spun b query token
  | flashExpired generation =>
    refine spun_of_gauges ?_
    show (b.expireFlash generation).gauges = b.gauges
    unfold expireFlash
    split <;> rfl
  | statsLoaded r => cases r <;> exact spun_of_gauges rfl
  | accountsLoaded r => cases r <;> exact spun_of_gauges rfl
  | manifestBuilt r =>
    refine spun_of_gauges ?_
    show (b.manifestBuilt r).1.gauges = b.gauges
    unfold manifestBuilt
    dsimp only
    split <;> rfl
  | manifestSaved r => cases r <;> exact spun_of_gauges rfl
  | exportFinished r => cases r <;> exact spun_of_gauges rfl

/-! ### what is awaited, when it comes -/

theorem Awaits.answered (hx : b.Awaits x) (ho : Outcome x e) : (b.update e).1.loading = false := by
  cases ho with
  | rows id d f q r =>
    show (b.rowsArrived id r).loading = false
    unfold rowsArrived
    rw [if_pos (by rw [Bool.and_eq_true]; exact ⟨beq_iff_eq.2 hx.1.symm, hx.2⟩)]
    cases r <;> rfl
  | messages id f q r =>
    show (b.messagesArrived id r).loading = false
    unfold messagesArrived
    rw [if_pos (by rw [Bool.and_eq_true, decide_eq_true_eq]; exact ⟨beq_iff_eq.2 hx.1.symm, hx.2⟩)]
    dsimp only
    split
    · rfl
    · cases r <;> rfl
  | thread id f q r =>
    show (b.threadArrived id r).loading = false
    unfold threadArrived
    rw [if_pos (by rw [Bool.and_eq_true, decide_eq_true_eq]; exact ⟨beq_iff_eq.2 hx.1.symm, hx.2⟩)]
    cases r <;> rfl
  | detail id m r =>
    show (b.detailArrived id r).loading = false
    unfold detailArrived
    rw [if_pos (by rw [Bool.and_eq_true, decide_eq_true_eq]; exact ⟨beq_iff_eq.2 hx.1.symm, hx.2⟩)]
    dsimp only
    split <;> rfl
  | _ => exact False.elim hx

theorem AwaitsPage.answered (hx : b.AwaitsPage x) (ho : Outcome x e) :
    (b.update e).1.search.loading = false ∧ (b.update e).1.search.loadingMore = false := by
  cases ho with
  | search id q r =>
    show (b.searchArrived id q.append r).search.loading = false ∧
      (b.searchArrived id q.append r).search.loadingMore = false
    unfold searchArrived
    rw [if_pos (by
      rw [Bool.and_eq_true, Bool.and_eq_true, decide_eq_true_eq, Bool.not_eq_true']
      exact ⟨⟨beq_iff_eq.2 hx.1.symm, hx.2.1⟩, hx.2.2⟩)]
    cases r <;> exact ⟨rfl, rfl⟩
  | _ => exact False.elim hx

theorem AwaitsTick.answered (hx : b.AwaitsTick x) (hl : b.view.level.isListed = true)
    (ho : Outcome x e) : SearchTurn b (b.update e) := by
  cases ho with
  | tick delay query token =>
    obtain ⟨rfl, -, -⟩ := hx
    exact ticked_turn b query hl
  | _ => exact False.elim hx

/-! ## marks that are left behind -/

/-- The messages of all rows are shown while the rows are still loaded, and a search goes along. -/
structure LeavesRows (b : Browser) (s : Step) : Prop where
  rows : b.view.level.isGrouped = true
  loading : b.loading = true
  list : s.1.view.level = .list
  query : s.1.view.query.isEmpty = false
  deeper : b.crumbs.length < s.1.crumbs.length

/-- A message or a thread is opened while its list is searched. -/
structure LeavesPage (b : Browser) (s : Step) : Prop where
  list : b.view.level = .list
  searching : b.search.loading = true ∨ b.search.loadingMore = true
  unlisted : s.1.view.level.isListed = false
  deeper : b.crumbs.length < s.1.crumbs.length

/-- A step of the session was so and led to a height, and the run has not been lower since. -/
def Lately (P : Browser → Step → Prop) (c : Config) (es : List Event) (height : Nat) : Prop :=
  ∃ before e after, es = before ++ e :: after ∧
    P (session c before).1 ((session c before).1.update e) ∧
    ((session c before).1.update e).1.crumbs.length = height ∧
    StaysAbove height ((session c before).1.update e).1 after

theorem Lately.now {P : Browser → Step → Prop} {c : Config} {es : List Event}
    (h : P (session c es).1 ((session c es).1.update e)) :
    Lately P c (es ++ [e]) ((session c es).1.update e).1.crumbs.length :=
  ⟨es, e, [], rfl, h, rfl, Nat.le_refl _⟩

theorem Lately.concat {P : Browser → Step → Prop} {c : Config} {es : List Event} {height : Nat}
    (h : Lately P c es height)
    (hl : (session c es).1.crumbs.length ≤ ((session c es).1.update e).1.crumbs.length) :
    Lately P c (es ++ [e]) height := by
  obtain ⟨before, f, after, rfl, hp, hh, ha⟩ := h
  rw [session_split] at hl
  exact ⟨before, f, after ++ [e], by simp, hp, hh, ha.concat (Nat.le_trans ha.le_run hl)⟩

/-! ## what marks stand for -/

/-- The mark of the view stands for a load that is owed, unless it was left behind. -/
def LoadDue (left : Prop) (b : Browser) (waiting : List Effect) : Prop :=
  b.loading = true → (∃ x ∈ waiting, b.Awaits x) ∨ (b.view.level = .list ∧ left)

/-- So do the marks of a search, and only rows and lists have an open line. -/
structure SearchDue (left : Prop) (b : Browser) (waiting : List Effect) : Prop where
  searching : b.search.loading = true →
    (∃ x ∈ waiting, b.AwaitsPage x ∨ b.AwaitsTick x) ∨ (b.view.level.isListed = false ∧ left)
  paging : b.search.loadingMore = true →
    (∃ x ∈ waiting, b.AwaitsPage x) ∨ (b.view.level.isListed = false ∧ left)
  line : b.search.active = true → b.view.level.isListed = true

variable {left later : Prop}

theorem awaits_of_kept (hl : s.1.view.level = b.view.level)
    (hk : ∀ k, k ≠ .search → s.1.ledger.current k = b.ledger.current k) (hx : b.Awaits x) :
    s.1.Awaits x := by
  cases x with
  | loadRows => exact ⟨hx.1.trans (hk .rows (by decide)).symm, by rw [hl]; exact hx.2⟩
  | loadMessages => exact ⟨hx.1.trans (hk .messages (by decide)).symm, hl.trans hx.2⟩
  | loadThread => exact ⟨hx.1.trans (hk .messages (by decide)).symm, hl.trans hx.2⟩
  | loadDetail => exact ⟨hx.1.trans (hk .detail (by decide)).symm, hl.trans hx.2⟩
  | _ => exact hx

theorem awaitsPage_of_kept (hl : s.1.view.level = b.view.level)
    (hq : b.view.level = .list → s.1.view.query = b.view.query)
    (hk : s.1.ledger.current .search = b.ledger.current .search) (hx : b.AwaitsPage x) :
    s.1.AwaitsPage x := by
  cases x with
  | search => exact ⟨hx.1.trans hk.symm, hl.trans hx.2.1, by rw [hq hx.2.1]; exact hx.2.2⟩
  | _ => exact hx

theorem LoadDue.update (h : LoadDue left b waiting)
    (hl : (b.update e).1.crumbs = b.crumbs → left → later)
    (hn : LeavesRows b (b.update e) → later) :
    LoadDue later (b.update e).1 (settle waiting e ++ (b.update e).2) := by
  intro hw
  cases (update_spun b e).load with
  | kept h1 h2 h3 h4 =>
    rcases h (h4 hw) with ⟨x, hx, ha⟩ | ⟨hlist, hleft⟩
    · -- had it come, the mark would have gone
      have ho : ¬ Outcome x e := fun ho => by rw [ha.answered ho] at hw; cases hw
      exact .inl ⟨x, List.mem_append_left _ (mem_settle hx ho), awaits_of_kept h2 h3 ha⟩
    · exact .inr ⟨h2.trans hlist, hl h1 hleft⟩
  | asked x hx ha => exact .inl ⟨x, List.mem_append_right _ hx, ha⟩
  | done h1 => rw [h1] at hw; cases hw
  | carried h1 h2 h3 h4 h5 => exact .inr ⟨h2, hn ⟨h1, h5 hw, h2, h3, h4⟩⟩

/-- A page that is owed is owed still, unless it has just come and taken the marks away. -/
theorem awaitsPage_owed {x : Effect} (hx : x ∈ waiting) (ha : b.AwaitsPage x)
    (hl : (b.update e).1.view.level = b.view.level)
    (hq : b.view.level = .list → (b.update e).1.view.query = b.view.query)
    (hk : (b.update e).1.ledger.current .search = b.ledger.current .search)
    (hw : (b.update e).1.search.loading = true ∨ (b.update e).1.search.loadingMore = true) :
    x ∈ settle waiting e ++ (b.update e).2 ∧ (b.update e).1.AwaitsPage x := by
  have ho : ¬ Outcome x e := by
    intro ho
    obtain ⟨h1, h2⟩ := ha.answered ho
    rw [h1, h2] at hw
    rcases hw with hw | hw <;> cases hw
  exact ⟨List.mem_append_left _ (mem_settle hx ho), awaitsPage_of_kept hl hq hk ha⟩

/-- A message or a thread waits for nothing that is searched. -/
theorem SearchDue.left_of_unlisted (h : SearchDue left b waiting)
    (hu : b.view.level.isListed = false)
    (hw : b.search.loading = true ∨ b.search.loadingMore = true) : left := by
  have hpage (x : Effect) : ¬ b.AwaitsPage x := by
    intro hx
    rw [hx.list] at hu
    cases hu
  rcases hw with hw | hw
  · rcases h.searching hw with ⟨x, -, hx | hx⟩ | ⟨-, hleft⟩
    · exact absurd hx (hpage x)
    · rw [h.line hx.active] at hu
      cases hu
    · exact hleft
  · rcases h.paging hw with ⟨x, -, hx⟩ | ⟨-, hleft⟩
    · exact absurd hx (hpage x)
    · exact hleft

theorem SearchDue.turn (h : SearchDue left b waiting) (ht : SearchTurn b (b.update e))
    (hl : b.crumbs.length ≤ (b.update e).1.crumbs.length → left → later)
    (hn : LeavesPage b (b.update e) → later) :
    SearchDue later (b.update e).1 (settle waiting e ++ (b.update e).2) := by
  cases ht with
  | asked x hx ha =>
    have hx : x ∈ settle waiting e ++ (b.update e).2 := List.mem_append_right _ hx
    exact ⟨fun _ => .inl ⟨x, hx, .inl ha⟩, fun _ => .inl ⟨x, hx, ha⟩, fun _ => by rw [ha.list]; rfl⟩
  | done hs hm ha =>
    refine ⟨fun hw => ?_, fun hw => ?_, ha⟩
    · rw [hs] at hw; cases hw
    · rw [hm] at hw; cases hw
  | retyped hc hv hq hk hs hm ha =>
    refine ⟨fun hw => ?_, fun hw => ?_, fun hw => ?_⟩
    · obtain ⟨x, hx, hx'⟩ := hs hw
      exact .inl ⟨x, List.mem_append_right _ hx, .inr hx'⟩
    · rcases h.paging (hm hw) with ⟨x, hx, hp⟩ | ⟨hu, hleft⟩
      · exact .inl ⟨x, awaitsPage_owed hx hp hv hq hk (.inr hw)⟩
      · exact .inr ⟨by rw [hv]; exact hu, hl (Nat.le_of_eq (congrArg List.length hc.symm)) hleft⟩
    · rw [hv]
      exact h.line (ha hw)
  | carried hu hd hs hm ha =>
    have taken (hw : b.search.loading = true ∨ b.search.loadingMore = true) : later := by
      rcases hd with ⟨hb, hd⟩ | ⟨hb, hd⟩
      · exact hl hd (h.left_of_unlisted hb hw)
      · exact hn ⟨hb, hw, hu, hd⟩
    exact ⟨fun hw => .inr ⟨hu, taken (.inl (hs hw))⟩, fun hw => .inr ⟨hu, taken (.inr (hm hw))⟩,
      fun hw => by rw [ha] at hw; cases hw⟩

theorem SearchDue.update (h : SearchDue left b waiting)
    (hl : b.crumbs.length ≤ (b.update e).1.crumbs.length → left → later)
    (hn : LeavesPage b (b.update e) → later) :
    SearchDue later (b.update e).1 (settle waiting e ++ (b.update e).2) := by
  rcases (update_spun b e).search with hk | ht
  · by_cases hcome : ∃ x, b.AwaitsTick x ∧ Outcome x e
    · obtain ⟨x, hx, ho⟩ := hcome
      exact h.turn (hx.answered (h.line hx.active) ho) hl hn
    · have hlast : left → later := hl (Nat.le_of_eq (congrArg List.length hk.crumbs.symm))
      have hpage {x : Effect} (hx : x ∈ waiting) (hp : b.AwaitsPage x)
          (hw : (b.update e).1.search.loading = true ∨ (b.update e).1.search.loadingMore = true) :=
        awaitsPage_owed hx hp hk.level hk.query hk.current hw
      refine ⟨fun hw => ?_, fun hw => ?_, fun hw => ?_⟩
      · rcases h.searching (hk.loading hw) with ⟨x, hx, hp | ht⟩ | ⟨hu, hleft⟩
        · exact .inl ⟨x, (hpage hx hp (.inl hw)).1, .inl (hpage hx hp (.inl hw)).2⟩
        · have ho : ¬ Outcome x e := fun ho => hcome ⟨x, ht, ho⟩
          exact .inl ⟨x, List.mem_append_left _ (mem_settle hx ho), .inr (hk.tick x ht)⟩
        · exact .inr ⟨by rw [hk.level]; exact hu, hlast hleft⟩
      · rcases h.paging (hk.more hw) with ⟨x, hx, hp⟩ | ⟨hu, hleft⟩
        · exact .inl ⟨x, hpage hx hp (.inr hw)⟩
        · exact .inr ⟨by rw [hk.level]; exact hu, hlast hleft⟩
      · rw [hk.level]
        rcases hk.line hw with hw | hw
        · exact h.line hw
        · exact hw
  · exact h.turn ht hl hn

/-! ## sessions -/

theorem session_loadDue (c : Config) (es : List Event) :
    LoadDue (Lately LeavesRows c es (session c es).1.crumbs.length) (session c es).1
      (owed c es) := by
  induction es using List.reverseRecOn with
  | nil =>
    intro _
    -- the rows at the top are asked for after the accounts and the totals
    have hx {x : Effect} (h : x ∈ (new c.tuning).loadRows.2) : x ∈ owed c [] :=
      List.mem_cons_of_mem _ (List.mem_cons_of_mem _ h)
    exact .inl ⟨_, hx (List.mem_singleton.2 rfl), rfl, rfl⟩
  | append_singleton es e ih =>
    rw [session_concat, owed_concat]
    refine ih.update (fun hc hleft => ?_) .now
    rw [hc]
    exact hleft.concat (Nat.le_of_eq (congrArg List.length hc.symm))

theorem session_searchDue (c : Config) (es : List Event) :
    SearchDue (∃ height, Lately LeavesPage c es height) (session c es).1 (owed c es) := by
  induction es using List.reverseRecOn with
  | nil => exact ⟨fun h => (by cases h), fun h => (by cases h), fun h => (by cases h)⟩
  | append_singleton es e ih =>
    rw [session_concat, owed_concat]
    exact ih.update (fun hl hleft => hleft.imp fun _ h => h.concat hl) fun h => ⟨_, .now h⟩

/-! ## at rest -/

theorem Awaits.isLoad (hx : b.Awaits x) : x.isLoad = true := by
  cases x <;> first | rfl | exact False.elim hx

theorem AwaitsPage.isLoad (hx : b.AwaitsPage x) : x.isLoad = true := by
  cases x <;> first | rfl | exact False.elim hx

theorem AwaitsTick.isLoad (hx : b.AwaitsTick x) : x.isLoad = true := by
  cases x <;> first | rfl | exact False.elim hx

/-- **Once no load, search or tick is owed, the view is marked only if it is the list of a search
that was entered from rows while they were loaded, and the search only if a message or a thread was
opened from its list while it was searched.** -/
theorem unmarked_at_rest {c : Config} {es : List Event} (h : ∀ x ∈ owed c es, x.isLoad = false) :
    let b := (session c es).1
    (b.loading = true → b.view.level = .list ∧ Lately LeavesRows c es b.crumbs.length) ∧
      (b.search.loading = true ∨ b.search.loadingMore = true →
        b.view.level.isListed = false ∧ ∃ height, Lately LeavesPage c es height) := by
  intro b
  have hn {x : Effect} (hx : x ∈ owed c es) : ¬ x.isLoad = true := by
    rw [h x hx]
    decide
  have hs := session_searchDue c es
  refine ⟨fun hw => ?_, fun hw => ?_⟩
  · rcases session_loadDue c es hw with ⟨x, hx, ha⟩ | hleft
    · exact absurd ha.isLoad (hn hx)
    · exact hleft
  · rcases hw with hw | hw
    · rcases hs.searching hw with ⟨x, hx, ha | ha⟩ | hleft
      · exact absurd ha.isLoad (hn hx)
      · exact absurd ha.isLoad (hn hx)
      · exact hleft
    · rcases hs.paging hw with ⟨x, hx, ha⟩ | hleft
      · exact absurd ha.isLoad (hn hx)
      · exact hleft

/-- The rows of a search that was typed at the top, when they have come. -/
theorem unmarked_after_a_search :
    let es : List Event := [.rowsLoaded 1 (.ok []), .key (.char '/'), .key (.char 'o'),
      .searchTick "o" 1, .rowsLoaded 2 (.ok [{ key := "alice@example.com" }])]
    (∀ x ∈ owed {} es, x.isLoad = false) ∧
      let b := (session {} es).1
      b.loading = false ∧ b.search.loading = false ∧ b.search.loadingMore = false := by
  intro es
  have hrest : ∀ x ∈ owed {} es, x.isLoad = false := by decide +kernel
  refine ⟨hrest, ?_⟩
  intro b
  have hl : b.view.level = .groups := by decide +kernel
  obtain ⟨hw, hs⟩ : (b.loading = true → _) ∧ (b.search.loading = true ∨ _ → _) :=
    unmarked_at_rest hrest
  have hn : ¬ (b.search.loading = true ∨ b.search.loadingMore = true) := by
    intro h
    have hu := (hs h).1
    rw [hl] at hu
    cases hu
  refine ⟨Bool.eq_false_iff.2 fun h => ?_, Bool.eq_false_iff.2 fun h => hn (.inl h),
    Bool.eq_false_iff.2 fun h => hn (.inr h)⟩
  have hlist := (hw h).1
  rw [hl] at hlist
  cases hlist

/-- Rows are searched, and all their messages shown before the rows have come: when all has come,
the list is marked still. -/
theorem marked_at_rest :
    ¬ ∀ (c : Config) (es : List Event), (∀ x ∈ owed c es, x.isLoad = false) →
      let b := (session c es).1
      b.loading = false ∧ b.search.loading = false ∧ b.search.loadingMore = false := by
  intro h
  have hw := (h {} [.rowsLoaded 1 (.ok [{ key := "alice@example.com" }]), .key (.char '/'),
    .key (.char 'o'), .key .enter, .key (.char 'a'), .searchTick "o" 1, .rowsLoaded 2 (.ok []),
    .searchLoaded 1 false (.ok { messages := [{ id := 1, conversation := 7 }], total := 1 })]
    (by decide +kernel)).1
  exact absurd hw (by decide +kernel)

end Browser
end MailBrowser
