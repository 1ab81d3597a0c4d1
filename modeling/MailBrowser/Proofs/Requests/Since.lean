import MailBrowser.Proofs.Requests.Numbering
import MailBrowser.Proofs.Requests.Stance

/-!
# What lasts until an answer comes

While the last request of a kind is without an answer, and the view that made it has not been
left upwards, the stack above that view is under a law: something holds of every crumb above it,
and something of the browser.  What the ways of a step do to the two is all there is to show.

* `View.loads`   the kind of request that a view is loaded anew by;
* `Law`          what the ways of a step do to a property of crumbs and one of the browser;
* `Since`        both hold above a stack of crumbs;
* `Law.run`      they hold on, while no answer comes and no request of the kind is made.
-/

namespace MailBrowser

def View.loads (v : View) : LoadKind :=
  match v.level with
  | .groups | .subgroups => .rows
  | .list => if v.query.isEmpty then .messages else .search
  | .reading => .detail
  | .thread => .messages

theorem Ledger.ne_of_current {l m : Ledger} {j k : LoadKind} (h : m = l.issue j)
    (hk : m.current k = l.current k) : k ≠ j := by
  rintro rfl
  rw [h, Ledger.current_issue_self] at hk
  omega

namespace Browser

/-- The requests of kind `k` are made by none of these ways. -/
structure Law (k : LoadKind) (account : Option Int) (past : Crumb → Prop) (now : Browser → Prop) :
    Prop where
  scene {b c : Browser} : SameScene b c → now b → now c
  filled {b c : Browser} {j : LoadKind} : j ≠ k → Filled b j c → now b → now c
  line {b c : Browser} : Line b c → now b → now c
  regroup {b c : Browser} : k ≠ .rows → b.view.level.isGrouped = true → Here b c → now b → now c
  relist {b c : Browser} : k ≠ .messages → b.view.level = .list → Here b c →
    c.view.query.isEmpty = true → now b → now c
  search {b c : Browser} : k ≠ .search → b.view.level = .list → Here b c →
    c.view.query.isEmpty = false → now b → now c
  retake {b c : Browser} : b.view.level = .list → Here b c → c.view.query.isEmpty = true →
    b.search.snapshot.isSome = true → now b → now c
  turn {b c : Browser} : k ≠ .detail → b.view.level = .reading → Here b c → now b → now c
  down {b c : Browser} {s : Step} : Down b c → Entry b c s →
    s.1.ledger.current k = c.ledger.current k → now b → past b.crumb ∧ now c
  back {b : Browser} {crumb : Crumb} :
    crumb.isKept = true ∨ crumb.view.level = .reading ∨ k ≠ crumb.view.loads →
    b.view.outline = crumb.view.outline → b.view.query = crumb.view.query →
    b.search.snapshot = none → b.account = account → past crumb → now b

structure Since (account : Option Int) (past : Crumb → Prop) (now : Browser → Prop)
    (base : List Crumb) (b : Browser) : Prop where
  stack : ∃ news, b.crumbs = news ++ base ∧ ∀ crumb ∈ news, past crumb
  account : b.account = account
  now : now b

variable {k : LoadKind} {account : Option Int} {past : Crumb → Prop} {now : Browser → Prop}
  {base : List Crumb} {b c : Browser}

/-- a step that leaves the stack alone -/
theorem Since.same (h : Since account past now base b) (hc : c.crumbs = b.crumbs)
    (ha : c.account = b.account) (hn : now c) : Since account past now base c :=
  ⟨by rw [hc]; exact h.stack, ha.trans h.account, hn⟩

/-- A kind whose number stands still is not the one that was asked for. -/
theorem ne_of_issue {s : Step} {j : LoadKind} (hc : c.ledger = b.ledger)
    (hi : s.1.ledger = c.ledger.issue j) (hk : s.1.ledger.current k = b.ledger.current k) :
    k ≠ j := Ledger.ne_of_current hi (by rw [hk, hc])

theorem RowsEnding.ledger {s : Step} (h : RowsEnding c s) :
    s.1.ledger = c.ledger.issue .rows := by
  cases h <;> rfl

theorem Law.ending (law : Law k account past now) {s : Step} (he : Ending c s)
    (h : Since account past now base c) : Since account past now base s.1 :=
  h.same he.samePlace.crumbs he.samePlace.account (law.scene he.sameScene h.now)

/-- A view that was not kept makes the request that it is loaded by. -/
theorem reload_issue (hl : b.view.level ≠ .reading) :
    b.reload.1.ledger = b.ledger.issue b.view.loads := by
  unfold View.loads
  cases h : b.view.level with
  | groups => rw [reload_grouped b (by rw [h]; rfl)]; rfl
  | subgroups => rw [reload_grouped b (by rw [h]; rfl)]; rfl
  | list =>
    rw [reload_list b h]
    by_cases hq : b.view.query.isEmpty = true
    · dsimp only
      rw [if_pos hq, if_pos hq]
      rfl
    · dsimp only
      rw [if_neg hq, if_neg hq]
      rfl
  | reading => exact absurd h hl
  | thread => rw [reload_thread b h]; rfl

theorem loads_congr {v w : View} (hl : w.level = v.level) (hq : w.query = v.query) :
    w.loads = v.loads := by
  unfold View.loads
  rw [hl, hq]

/-! ## steps -/

theorem Law.goBack (law : Law k account past now) {crumb : Crumb} {rest news : List Crumb}
    (h : b.crumbs = crumb :: rest) (hr : rest = news ++ base) (hc : past crumb)
    (hn : ∀ crumb ∈ news, past crumb) (ha : b.account = account)
    (hk : b.goBack.1.ledger.current k = b.ledger.current k) :
    Since account past now base b.goBack.1 := by
  have hl := level_resume b crumb rest
  have hq := query_resume b crumb rest
  rw [goBack_eq h] at hk ⊢
  by_cases hkept : crumb.isKept = true
  · rw [if_pos hkept]
    exact ⟨⟨news, hr, hn⟩, ha, law.back (.inl hkept) (outline_resume b crumb rest) hq rfl ha hc⟩
  · rw [if_neg hkept] at hk ⊢
    have hp := reload_samePlace (b.resume crumb rest)
    have hv := reload_view (b.resume crumb rest)
    refine ⟨⟨news, hp.crumbs.trans hr, hn⟩, hp.account.trans ha, law.back ?_ ?_ ?_ ?_ ?_ hc⟩
    · by_cases hlr : crumb.view.level = .reading
      · exact .inr (.inl hlr)
      · have hi := reload_issue (b := b.resume crumb rest) (by rw [hl]; exact hlr)
        have hne := Ledger.ne_of_current hi hk
        rw [loads_congr hl hq] at hne
        exact .inr (.inr hne)
    · rw [hv]; exact outline_resume b crumb rest
    · rw [hv]; exact hq
    · exact hp.snapshot.trans rfl
    · exact hp.account.trans ha

/-- The stack keeps its law at every step that does not go below it. -/
theorem Law.way (law : Law k account past now) {s : Step} (h : Way b s) (hb : b.Orderly)
    (hs : Since account past now base b) (hh : base.length ≤ s.1.crumbs.length)
    (hbase : base ≠ [] ∨ k = .rows) (hk : s.1.ledger.current k = b.ledger.current k) :
    Since account past now base s.1 := by
  have hq := hs.now
  cases h with
  | stay h => exact hs.same h.sameScene.crumbs h.sameScene.account (law.scene h.sameScene hq)
  | line h => exact hs.same h.crumbs h.account (law.line h hq)
  | regroup hl h hr =>
    have hne : k ≠ .rows := ne_of_issue h.ledger hr.ledger hk
    exact law.ending hr.ending (hs.same h.crumbs h.account (law.regroup hne hl h hq))
  | relist hl h he =>
    have hne : k ≠ .messages := ne_of_issue h.ledger rfl hk
    exact law.ending .messages (hs.same h.crumbs h.account (law.relist hne hl h he hq))
  | search hl h he =>
    have hne : k ≠ .search := ne_of_issue h.ledger rfl hk
    exact law.ending (.search _ _) (hs.same h.crumbs h.account (law.search hne hl h he hq))
  | retake hl h he hsn => exact hs.same h.crumbs h.account (law.retake hl h he hsn hq)
  | turn m hl h hf hd hm =>
    have hne : k ≠ .detail := ne_of_issue h.ledger rfl hk
    exact law.ending (.detail m hm) (hs.same h.crumbs h.account (law.turn hne hl h hq))
  | down h he =>
    obtain ⟨hp, hn⟩ := law.down h he (by rw [hk, h.ledger]) hq
    obtain ⟨news, hc, hnews⟩ := hs.stack
    refine law.ending he.ending ⟨⟨b.crumb :: news, ?_, ?_⟩, h.account.trans hs.account, hn⟩
    · rw [h.crumbs, hc, List.cons_append]
    · intro crumb hm
      rcases List.mem_cons.1 hm with rfl | hm
      · exact hp
      · exact hnews crumb hm
  | back hf h =>
    rename_i crumb rest
    obtain ⟨news, hc, hnews⟩ := hs.stack
    rw [goBack_crumbs h] at hh
    rw [h] at hc
    cases news with
    | nil =>
      -- the view under the law would have been left
      rw [List.nil_append] at hc
      rw [← hc, List.length_cons] at hh
      omega
    | cons top news =>
      rw [List.cons_append, List.cons.injEq] at hc
      obtain ⟨rfl, hr⟩ := hc
      exact law.goBack h hr (hnews _ List.mem_cons_self)
        (fun c hm => hnews c (List.mem_cons_of_mem _ hm)) hs.account hk
  | top h hr =>
    rcases hbase with hbase | rfl
    · rw [hr.ending.samePlace.crumbs, h.crumbs] at hh
      exact absurd (List.length_eq_zero_iff.1 (Nat.le_zero.1 hh)) hbase
    · exact absurd rfl (ne_of_issue h.ledger hr.ledger hk)
  | stray hn h => exact absurd hb hn

theorem Law.update (law : Law k account past now) {e : Event} (hb : b.Orderly)
    (hs : Since account past now base b) (hh : base.length ≤ (b.update e).1.crumbs.length)
    (hbase : base ≠ [] ∨ k = .rows) (hk : (b.update e).1.ledger.current k = b.ledger.current k)
    (he : e.stamp? ≠ some (k, b.ledger.current k)) :
    Since account past now base (b.update e).1 := by
  rcases update_way b e with h | ⟨j, c, hj, hc, hf⟩
  · exact law.way h hb hs hh hbase hk
  · rw [hc]
    refine hs.same hf.crumbs hf.account (law.filled (fun hjk => he ?_) hf hs.now)
    rw [hj, hjk]

/-! ## runs -/

theorem current_le_run (b : Browser) (es : List Event) (k : LoadKind) :
    b.ledger.current k ≤ (b.run es).1.ledger.current k := by
  obtain ⟨n, -, hn⟩ := run_numbers b es k
  omega

/-- **The stack keeps its law until the request is answered or another of its kind is made.** -/
theorem Law.run (law : Law k account past now) {es : List Event} (hb : b.Orderly)
    (hs : Since account past now base b) (hh : StaysAbove base.length b es)
    (hbase : base ≠ [] ∨ k = .rows)
    (hk : (b.run es).1.ledger.current k = b.ledger.current k)
    (he : ∀ e ∈ es, e.stamp? ≠ some (k, b.ledger.current k)) :
    Since account past now base (b.run es).1 := by
  induction es generalizing b with
  | nil => exact hs
  | cons e es ih =>
    have hu : (b.update e).1.ledger.current k = b.ledger.current k := by
      have h1 := current_le_run b [e] k
      have h2 := current_le_run (b.update e).1 es k
      have h1 : b.ledger.current k ≤ (b.update e).1.ledger.current k := h1
      have h3 : ((b.update e).1.run es).1.ledger.current k = b.ledger.current k := hk
      omega
    have hse := law.update hb hs hh.2.le hbase hu (he e List.mem_cons_self)
    refine ih (update_orderly hb e) hse hh.2 (by rw [hu]; exact hk) fun f hf => ?_
    rw [hu]
    exact he f (List.mem_cons_of_mem _ hf)

end Browser
end MailBrowser
