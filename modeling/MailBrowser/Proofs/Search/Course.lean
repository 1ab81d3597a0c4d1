import MailBrowser.Browser.Session
import MailBrowser.Proofs.Requests.Owed
import MailBrowser.Proofs.Search.Moves

/-!
# The course of a search

A list without a query, or the rows of a drill, is searched: the line is opened, keys go to it, it
is opened again over results, and outcomes of what was asked for meanwhile come in any order.

* `Searching`     what may come in the course of a search, `Searches` one after the other;
* `unsearched`    what a view shows without a search, as an engine answers;
* `Pending`       what may be owed, `Pending.outcome` what it turns into;
* `Ongoing`       a search of the view of `s`, which stays in sight behind it;
* `Recounts`      the only way to other totals, apart from those that were kept;
* `Ongoing.step`  one event more, `Ongoing.run` any number.
-/

namespace MailBrowser
namespace Browser

/-- what may come in the course of a search, when some effects are owed to a session -/
inductive Searching (d : Session) (b : Browser) (waiting : List Effect) : Event → Prop where
  | line (k : Key) (ha : b.search.active = true) : Searching d b waiting (.key k)
  | reopen (ha : b.search.active = false) (hq : b.view.query.isEmpty = false) :
    Searching d b waiting (.key (.char '/'))
  | resize (height : Nat) : Searching d b waiting (.resize height)
  | outcome {x : Effect} {e : Event} (hx : x ∈ waiting) (now : Instant)
      (he : (d.perform now x).2 = some e) : Searching d b waiting e

def Searches (d : Session) (b : Browser) (waiting : List Effect) : List Event → Prop
  | [] => True
  | e :: es => Searching d b waiting e ∧
      (b.update e).1.Searches d (settle waiting e ++ (b.update e).2) es

/-- what an engine answers to `listing` -/
def listed (b : Browser) (e : Engine) : Answer (List Summary) :=
  e.list b.listFilter { sortField := b.view.messageField, direction := b.view.messageDirection }

/-- what an engine answers to `grouping` -/
def groupedBy (b : Browser) (e : Engine) (query : String) : Answer (List Row) :=
  e.groupWithin b.view.filter b.view.dimension (b.withQuery query).groupOptions

def unsearched (b : Browser) (e : Engine) : Answer Loaded :=
  if b.view.level = .list then
    (b.listed e).map fun messages => { b.view.data with messages }
  else (b.groupedBy e "").map fun rows => { b.view.data with rows }

/-- The line can be opened over a view without a query, which an engine answers to. -/
structure Opening (s : Browser) (e : Engine) : Prop where
  free : s.Free
  searchable : s.Searchable
  query : s.view.query = ""
  answered : ∃ data, s.unsearched e = .ok data

/-- the last load of the view of `s` without a query -/
def lastLoad (s : Browser) (l : Ledger) : Effect :=
  if s.view.level = .list then s.listing l.messages else s.grouping l.rows ""

/-- Rows are asked for with the query that holds. -/
inductive Pending (s b : Browser) : Effect → Prop where
  | quit : Pending s b .quit
  | tick (delay : Nat) (query : String) {token : Nat} (ht : token ≤ b.search.token) :
    Pending s b (.searchTick delay query token)
  | page (hl : s.view.level = .list) (id : Nat) (q : SearchRequest) : Pending s b (.search id q)
  | list (hl : s.view.level = .list) (id : Nat) : Pending s b (s.listing id)
  | rows (hl : s.view.level = .subgroups) {id : Nat} {query : String} (hn : id ≤ b.ledger.rows)
      (hq : id = b.ledger.rows → query = b.view.query) : Pending s b (s.grouping id query)

/-- The view of `s` is searched, or its search has been left. -/
structure Ongoing (s : Browser) (e : Engine) (b : Browser) (waiting : List Effect) : Prop where
  footing : b.footing = s.footing
  kept : b.search.snapshot = none ∨
    s.view.level = .list ∧ b.search.snapshot = some s.view.snapshot
  pending : ∀ x ∈ waiting, Pending s b x
  ofList : s.view.level = .list → ∀ messages,
    { b.view.data with messages } = { s.view.data with messages }
  ofRows : s.view.level = .subgroups → ∀ rows,
    { b.view.data with rows } = { s.view.data with rows }
  /-- Without a query, what is shown needs none, or the load that brings it is owed. -/
  clear : b.view.query.isEmpty = true → b.view.data = s.view.data ∨
    s.unsearched e = .ok b.view.data ∨ s.lastLoad b.ledger ∈ waiting

/-- An answer is shown while a query holds. -/
def Recounts (b : Browser) (e : Event) : Prop := b.Shows e ∧ b.view.query.isEmpty = false

variable {s b c : Browser} {d : Session} {waiting : List Effect} {x : Effect} {e : Event}
  {es : List Event} {t : Step}

/-! ## what is owed -/

theorem Pending.mono (h : Pending s b x) (ht : b.search.token ≤ c.search.token)
    (hr : b.ledger.rows < c.ledger.rows ∨
      (c.ledger.rows, c.view.query) = (b.ledger.rows, b.view.query) ∨ s.view.level = .list) :
    Pending s c x := by
  cases h with
  | quit => exact .quit
  | tick delay query htb => exact .tick delay query (Nat.le_trans htb ht)
  | page hl id q => exact .page hl id q
  | list hl id => exact .list hl id
  | @rows hl id query hn hq =>
    rcases hr with hr | hr | hr
    · exact .rows hl (by omega) fun h => by omega
    · rw [Prod.mk.injEq] at hr
      refine .rows hl (hr.1 ▸ hn) ?_
      rw [hr.1, hr.2]
      exact hq
    · cases hl.symm.trans hr

/-- what an engine answers -/
theorem Pending.outcome (h : Pending s b x) {now : Instant} (he : (d.perform now x).2 = some e) :
    (∃ delay query token, x = .searchTick delay query token ∧ e = .searchTick query token) ∨
    (∃ id append r, e = .searchLoaded id append r) ∨
    (s.view.level = .list ∧ ∃ id, e = .messagesLoaded id (s.listed d.engine)) ∨
    (s.view.level = .subgroups ∧ ∃ id query, (id = b.ledger.rows → query = b.view.query) ∧
      e = .rowsLoaded id (s.groupedBy d.engine query)) := by
  cases h with
  | quit => cases he
  | tick delay query ht => exact .inl ⟨delay, query, _, rfl, (Option.some.inj he).symm⟩
  | page hl id q => exact .inr (.inl ⟨id, q.append, _, (Option.some.inj he).symm⟩)
  | list hl id => exact .inr (.inr (.inl ⟨hl, id, (Option.some.inj he).symm⟩))
  | @rows hl id query hn hq =>
    exact .inr (.inr (.inr ⟨hl, id, query, hq, (Option.some.inj he).symm⟩))

theorem lastLoad_of_list (hl : s.view.level = .list) (l : Ledger) :
    s.lastLoad l = s.listing l.messages := if_pos hl

theorem lastLoad_of_rows (hl : s.view.level = .subgroups) (l : Ledger) :
    s.lastLoad l = s.grouping l.rows "" := if_neg (by rw [hl]; decide)

theorem unsearched_of_list (hl : s.view.level = .list) (e : Engine) : s.unsearched e =
    (s.listed e).map fun messages => { s.view.data with messages } := if_pos hl

theorem unsearched_of_rows (hl : s.view.level = .subgroups) (e : Engine) : s.unsearched e =
    (s.groupedBy e "").map fun rows => { s.view.data with rows } := if_neg (by rw [hl]; decide)

/-- Only an answer settles a load. -/
theorem not_outcome_lastLoad {l : Ledger} (h : e.stamp? = none) : ¬ Outcome (s.lastLoad l) e := by
  intro ho
  rw [ho.stamp] at h
  unfold lastLoad at h
  split at h <;> cases h

/-! ## in the course of a search -/

theorem Ongoing.searchable (h : Ongoing s d.engine b waiting) (hs : s.Searchable) :
    b.Searchable := by
  unfold Searchable
  rw [level_of_footing h.footing]
  exact hs

theorem Ongoing.undisturbed (h : Ongoing s d.engine b waiting) (hf : s.Free) :
    b.busy = none ∧ b.dialog = none ∧ b.view.find.input = none :=
  ⟨(congrArg (·.2.2.2.2.2.1) h.footing).trans hf.idle,
    (congrArg (·.2.2.2.2.2.2) h.footing).trans hf.noDialog,
    (congrArg (·.1.2.2.2.2.2.2.2.2.input) h.footing).trans hf.noFind⟩

theorem Ongoing.kept_of_stays (h : Ongoing s d.engine b waiting) (hc : Stays b c) :
    c.search.snapshot = none ∨
      s.view.level = .list ∧ c.search.snapshot = some s.view.snapshot := by
  rcases hc.snapshot with hn | hn
  · exact .inl hn
  · rw [hn]
    exact h.kept

theorem Ongoing.retaken (h : Ongoing s d.engine b waiting) {u : ListSnapshot}
    (hu : b.search.snapshot = some u) :
    { b.view.data with messages := u.messages } = s.view.data ∧ u.totals = s.view.totals := by
  rcases h.kept with hn | ⟨hl, hn⟩
  · cases hu.symm.trans hn
  · obtain rfl := Option.some.inj (hu.symm.trans hn)
    exact ⟨h.ofList hl _, rfl⟩

/-- A key or a tick leaves alone what is loaded, or takes back what was kept. -/
theorem Ongoing.data_move (h : Ongoing s d.engine b waiting) (hm : Moves b t) :
    (t.1.view.data, t.1.view.totals) = (b.view.data, b.view.totals) ∨
      (t.1.view.data, t.1.view.totals) = (s.view.data, s.view.totals) := by
  have same {query : String} {l : Ledger}
      (hv : t.1.display = (query, b.view.data, b.view.totals, l)) :
      (t.1.view.data, t.1.view.totals) = (b.view.data, b.view.totals) :=
    congrArg (fun v : String × Loaded × Option Stats × Ledger => (v.2.1, v.2.2.1)) hv
  cases hm.move with
  | still hv hx => exact .inl (same hv)
  | retake u hl hu hv hx =>
    simp only [display, Prod.mk.injEq] at hv
    obtain ⟨hd, ht⟩ := h.retaken hu
    exact .inr (by rw [hv.2.1, hv.2.2.1, hd, ht])
  | search id q query hl hq hv hx => exact .inl (same hv)
  | relist hl hv hx => exact .inl (same hv)
  | regroup query hl hv hx => exact .inl (same hv)

theorem Ongoing.pending_move (h : Ongoing s d.engine b waiting) (hm : Moves b t) :
    ∀ x ∈ settle waiting e ++ t.2, Pending s t.1 x := by
  have hlev : b.view.level = s.view.level := level_of_footing h.footing
  have all {asked : List Effect} (hx : t.2 = asked)
      (hr : b.ledger.rows < t.1.ledger.rows ∨
        (t.1.ledger.rows, t.1.view.query) = (b.ledger.rows, b.view.query) ∨ s.view.level = .list)
      (hn : ∀ x ∈ asked, Pending s t.1 x) : ∀ x ∈ settle waiting e ++ t.2, Pending s t.1 x := by
    intro x hmem
    rcases List.mem_append.1 hmem with hmem | hmem
    · exact (h.pending x (mem_of_settle hmem)).mono hm.token hr
    · exact hn x (hx ▸ hmem)
  -- The query only changes together with the last number of rows, or at a list.
  cases hm.move with
  | still hv hx =>
    simp only [display, Prod.mk.injEq] at hv
    refine all rfl (.inr (.inl (by rw [hv.1, hv.2.2.2]))) fun x hmem => ?_
    rcases hx x hmem with rfl | ⟨delay, query, rfl⟩
    · exact .quit
    · exact .tick delay query (Nat.le_refl _)
  | retake u hl hu hv hx => exact all hx (.inr (.inr (hlev ▸ hl))) fun x hmem => by cases hmem
  | search id q query hl hq hv hx =>
    refine all hx (.inr (.inr (hlev ▸ hl))) fun x hmem => ?_
    obtain rfl := List.mem_singleton.1 hmem
    exact .page (hlev ▸ hl) id q
  | relist hl hv hx =>
    refine all hx (.inr (.inr (hlev ▸ hl))) fun x hmem => ?_
    obtain rfl := List.mem_singleton.1 hmem
    rw [listing_of_footing h.footing]
    exact .list (hlev ▸ hl) _
  | regroup query hl hv hx =>
    simp only [display, Prod.mk.injEq] at hv
    have hrows : t.1.ledger.rows = b.ledger.rows + 1 := by
      rw [hv.2.2.2]
      rfl
    refine all hx (.inl (by omega)) fun x hmem => ?_
    obtain rfl := List.mem_singleton.1 hmem
    rw [grouping_of_footing h.footing]
    exact .rows (hlev ▸ hl) (by omega) fun _ => hv.1.symm

theorem Ongoing.clear_move (h : Ongoing s d.engine b waiting) (hm : Moves b t)
    (hk : ∀ l, ¬ Outcome (s.lastLoad l) e) (hq : t.1.view.query.isEmpty = true) :
    t.1.view.data = s.view.data ∨ s.unsearched d.engine = .ok t.1.view.data ∨
      s.lastLoad t.1.ledger ∈ settle waiting e ++ t.2 := by
  have hlev : b.view.level = s.view.level := level_of_footing h.footing
  cases hm.move with
  | still hv hx =>
    simp only [display, Prod.mk.injEq] at hv
    obtain ⟨hvq, hvd, -, hvl⟩ := hv
    rw [hvq] at hq
    rw [hvd, hvl]
    rcases h.clear hq with hd | hd | hd
    · exact .inl hd
    · exact .inr (.inl hd)
    · exact .inr (.inr (List.mem_append_left _ (mem_settle hd (hk _))))
  | retake u hl hu hv hx =>
    simp only [display, Prod.mk.injEq] at hv
    exact .inl (hv.2.1.trans (h.retaken hu).1)
  | search id q query hl hqn hv hx =>
    simp only [display, Prod.mk.injEq] at hv
    rw [hv.1, hqn] at hq
    cases hq
  | relist hl hv hx =>
    simp only [display, Prod.mk.injEq] at hv
    refine .inr (.inr (List.mem_append_right _ ?_))
    rw [hx, hv.2.2.2, lastLoad_of_list (hlev ▸ hl), ← listing_of_footing h.footing]
    exact List.mem_singleton_self _
  | regroup query hl hv hx =>
    simp only [display, Prod.mk.injEq] at hv
    rw [hv.1] at hq
    refine .inr (.inr (List.mem_append_right _ ?_))
    rw [hx, hv.2.2.2, lastLoad_of_rows (hlev ▸ hl), ← grouping_of_footing h.footing,
      String.isEmpty_iff.1 hq]
    exact List.mem_singleton_self _

/-- **A key or a tick in the course of a search.** -/
theorem Ongoing.move (h : Ongoing s d.engine b waiting) (hm : Moves b t)
    (hk : ∀ l, ¬ Outcome (s.lastLoad l) e) :
    Ongoing s d.engine t.1 (settle waiting e ++ t.2) where
  footing := hm.footing.trans h.footing
  kept := h.kept_of_stays hm.toStays
  pending := h.pending_move hm
  ofList hl messages := by
    rcases h.data_move hm with hd | hd
    · rw [(Prod.mk.inj hd).1]
      exact h.ofList hl messages
    · rw [(Prod.mk.inj hd).1]
  ofRows hl rows := by
    rcases h.data_move hm with hd | hd
    · rw [(Prod.mk.inj hd).1]
      exact h.ofRows hl rows
    · rw [(Prod.mk.inj hd).1]
  clear := h.clear_move hm hk

/-! ## answers -/

/-- The answer to the load of the view comes to the view. -/
theorem Ongoing.shows (h : Ongoing s d.engine b waiting)
    (hu : ∃ data, s.unsearched d.engine = .ok data) (hq : b.view.query.isEmpty = true)
    (hx : x ∈ waiting) {now : Instant} (he : (d.perform now x).2 = some e)
    (ho : Outcome (s.lastLoad b.ledger) e) : b.Shows e := by
  have hlev : b.view.level = s.view.level := level_of_footing h.footing
  obtain ⟨data, hu⟩ := hu
  rcases (h.pending x hx).outcome he with ⟨-, query, token, -, rfl⟩ | ⟨id, append, r, rfl⟩ |
    ⟨hl, id, rfl⟩ | ⟨hl, id, query, hid, rfl⟩
  · exact absurd ho (not_outcome_lastLoad rfl)
  · unfold lastLoad at ho
    split at ho <;> cases ho
  · rw [lastLoad_of_list hl] at ho
    rw [unsearched_of_list hl] at hu
    cases ho
    cases hr : s.listed d.engine with
    | error q => rw [hr] at hu; cases hu
    | ok messages => exact ⟨rfl, hlev.trans hl, hq⟩
  · rw [lastLoad_of_rows hl] at ho
    rw [unsearched_of_rows hl] at hu
    cases ho
    rw [hid rfl, String.isEmpty_iff.1 hq]
    cases hr : s.groupedBy d.engine "" with
    | error q => rw [hr] at hu; cases hu
    | ok rows => exact ⟨rfl, by rw [hlev, hl]; rfl⟩

/-- What an answer shows without a query is what the engine answers to the view. -/
theorem Ongoing.landed (h : Ongoing s d.engine b waiting) (hx : x ∈ waiting) {now : Instant}
    (he : (d.perform now x).2 = some e) (hd : Lands b e c) (hs : b.Shows e)
    (hq : c.view.query.isEmpty = true) : s.unsearched d.engine = .ok c.view.data := by
  have hlev : b.view.level = s.view.level := level_of_footing h.footing
  cases hd with
  | dropped hn hv => exact absurd hs hn
  | messages messages hl hs hev hv =>
    simp only [display, Prod.mk.injEq] at hv
    rw [hv.2.1, h.ofList (hlev ▸ hl), unsearched_of_list (hlev ▸ hl)]
    rcases (h.pending x hx).outcome he with ⟨-, query, token, -, rfl⟩ | ⟨id, append, r, rfl⟩ |
      ⟨-, id, rfl⟩ | ⟨-, id, query, -, rfl⟩
    · cases hev
    · cases hev
    · rw [Event.messagesLoaded.injEq] at hev
      rw [hev.2]
      rfl
    · cases hev
  | page messages totals hl hqn hs hv =>
    simp only [display, Prod.mk.injEq] at hv
    rw [hv.1, hqn] at hq
    cases hq
  | rows rows hl hqn hs hev hv =>
    simp only [display, Prod.mk.injEq] at hv
    rw [hv.2.1, h.ofRows (hlev ▸ hl), unsearched_of_rows (hlev ▸ hl)]
    rcases (h.pending x hx).outcome he with ⟨-, query, token, -, rfl⟩ | ⟨id, append, r, rfl⟩ |
      ⟨-, id, rfl⟩ | ⟨-, id, query, hid, rfl⟩
    · cases hev
    · cases hev
    · cases hev
    · -- Rows with the last number were asked for with the query that holds, so with none.
      rw [Event.rowsLoaded.injEq] at hev
      have hquery : query = "" := (hid hev.1).trans (String.isEmpty_iff.1 hqn)
      rw [← hquery, hev.2]
      rfl
  | found rows hl hqn hs hv =>
    simp only [display, Prod.mk.injEq] at hv
    rw [hv.1, hqn] at hq
    cases hq

/-- An answer asks for nothing, and leaves the query. -/
theorem Lands.keeps (h : Lands b e c) : c.ledger = b.ledger ∧
    (c.view.query = b.view.query ∨ b.view.level = .list) := by
  cases h with
  | dropped hn hv => exact ⟨congrArg (·.2.2.2) hv, .inl (congrArg (·.1) hv)⟩
  | messages messages hl hs hev hv => exact ⟨congrArg (·.2.2.2) hv, .inr hl⟩
  | page messages totals hl hqn hs hv => exact ⟨congrArg (·.2.2.2) hv, .inr hl⟩
  | rows rows hl hqn hs hev hv =>
    exact ⟨congrArg (·.2.2.2) hv, .inl ((congrArg (·.1) hv).trans (String.isEmpty_iff.1 hqn).symm)⟩
  | found rows hl hqn hs hv => exact ⟨congrArg (·.2.2.2) hv, .inl (congrArg (·.1) hv)⟩

/-- Only what is listed at the level is loaded. -/
theorem Lands.data (h : Lands b e c) : c.view.data = b.view.data ∨
    (b.view.level = .list ∧
      ∃ messages, c.view.data = { b.view.data with messages }) ∨
    (b.view.level = .subgroups ∧ ∃ rows, c.view.data = { b.view.data with rows }) := by
  cases h with
  | dropped hn hv => exact .inl (congrArg (·.2.1) hv)
  | messages messages hl hs hev hv => exact .inr (.inl ⟨hl, messages, congrArg (·.2.1) hv⟩)
  | page messages totals hl hqn hs hv => exact .inr (.inl ⟨hl, messages, congrArg (·.2.1) hv⟩)
  | rows rows hl hqn hs hev hv => exact .inr (.inr ⟨hl, rows, congrArg (·.2.1) hv⟩)
  | found rows hl hqn hs hv => exact .inr (.inr ⟨hl, rows, congrArg (·.2.1) hv⟩)

theorem Lands.totals (h : Lands b e c) :
    c.view.totals = b.view.totals ∨ Recounts b e := by
  cases h with
  | dropped hn hv => exact .inl (congrArg (·.2.2.1) hv)
  | messages messages hl hs hev hv => exact .inl (congrArg (·.2.2.1) hv)
  | page messages totals hl hqn hs hv => exact .inr ⟨hs, hqn⟩
  | rows rows hl hqn hs hev hv => exact .inl (congrArg (·.2.2.1) hv)
  | found rows hl hqn hs hv => exact .inr ⟨hs, hqn⟩

theorem Ongoing.clear_arrive (h : Ongoing s d.engine b waiting)
    (hu : ∃ data, s.unsearched d.engine = .ok data) (hx : x ∈ waiting) {now : Instant}
    (he : (d.perform now x).2 = some e) (ha : Arrives b e c) (hq : c.view.query.isEmpty = true) :
    c.view.data = s.view.data ∨ s.unsearched d.engine = .ok c.view.data ∨
      s.lastLoad c.ledger ∈ settle waiting e := by
  by_cases hs : b.Shows e
  · exact .inr (.inl (h.landed hx he ha.lands hs hq))
  · have hv := ha.lands.of_not_shows hs
    simp only [display, Prod.mk.injEq] at hv
    obtain ⟨hvq, hvd, -, hvl⟩ := hv
    rw [hvq] at hq
    rw [hvd, hvl]
    rcases h.clear hq with hd | hd | hd
    · exact .inl hd
    · exact .inr (.inl hd)
    · -- The load is still owed: its own answer would have been shown.
      refine .inr (.inr (mem_settle hd fun ho => hs ?_))
      exact h.shows hu hq hx he ho

/-- **An outcome in the course of a search.** -/
theorem Ongoing.arrive (h : Ongoing s d.engine b waiting)
    (hu : ∃ data, s.unsearched d.engine = .ok data) (hx : x ∈ waiting) {now : Instant}
    (he : (d.perform now x).2 = some e) (ha : Arrives b e c) :
    Ongoing s d.engine c (settle waiting e) where
  footing := ha.footing.trans h.footing
  kept := h.kept_of_stays ha.toStays
  pending y hy := by
    obtain ⟨hl, hq⟩ := ha.lands.keeps
    refine (h.pending y (mem_of_settle hy)).mono ha.token (.inr ?_)
    rcases hq with hq | hq
    · exact .inl (by rw [hl, hq])
    · exact .inr ((level_of_footing h.footing).symm.trans hq)
  ofList hl messages := by
    rcases ha.lands.data with hd | ⟨-, shown, hd⟩ | ⟨hr, -⟩
    · rw [hd]
      exact h.ofList hl messages
    · rw [hd]
      exact h.ofList hl messages
    · cases hl.symm.trans ((level_of_footing h.footing).symm.trans hr)
  ofRows hl rows := by
    rcases ha.lands.data with hd | ⟨hr, -⟩ | ⟨-, shown, hd⟩
    · rw [hd]
      exact h.ofRows hl rows
    · cases hl.symm.trans ((level_of_footing h.footing).symm.trans hr)
    · rw [hd]
      exact h.ofRows hl rows
  clear := h.clear_arrive hu hx he ha

/-! ## one event more -/

/-- The key that opens the line gets to rows as well. -/
theorem press_slash_of_searchable (hf : b.Free) (hb : b.Searchable) :
    b.press (.char '/') = b.openSearch := by
  rcases hb with hl | hl
  · exact press_slash hf hl
  · rw [press_of_free hf, if_neg (by decide)]
    show b.pressInLevel (.char '/') = _
    unfold pressInLevel
    rw [hl]
    rfl

/-- What is not a tick is an answer. -/
theorem Ongoing.outcome (h : Ongoing s d.engine b waiting) (hs : s.Searchable) (hx : x ∈ waiting)
    {now : Instant} (he : (d.perform now x).2 = some e) :
    (∃ delay query token, x = .searchTick delay query token ∧ e = .searchTick query token) ∨
      ∃ c, b.update e = (c, []) ∧ Arrives b e c := by
  rcases (h.pending x hx).outcome he with ht | ⟨id, append, r, rfl⟩ | ⟨hl, id, rfl⟩ |
    ⟨hl, id, query, -, rfl⟩
  · exact .inl ht
  · exact .inr ⟨_, rfl, searchArrived_arrives b id append r⟩
  · exact .inr ⟨_, rfl, messagesArrived_arrives b id _⟩
  · exact .inr ⟨_, rfl, rowsArrived_arrives (h.searchable hs) id _⟩

/-- A search changes the display itself, or takes in an answer. -/
theorem Ongoing.update (h : Ongoing s d.engine b waiting) (hf : s.Free) (hs : s.Searchable)
    (he : Searching d b waiting e) :
    (Moves b (b.update e) ∧ ∀ l, ¬ Outcome (s.lastLoad l) e) ∨
      ∃ c x now, b.update e = (c, []) ∧ Arrives b e c ∧ x ∈ waiting ∧
        (d.perform now x).2 = some e := by
  have hb : b.Searchable := h.searchable hs
  obtain ⟨hi, hd, hfind⟩ := h.undisturbed hf
  cases he with
  | line k ha =>
    exact .inl ⟨press_moves hb hi hd ha k, fun l => not_outcome_lastLoad rfl⟩
  | reopen ha hq =>
    refine .inl ⟨?_, fun l => not_outcome_lastLoad rfl⟩
    show Moves b (b.press (.char '/'))
    rw [press_slash_of_searchable ⟨hi, hd, ha, hfind⟩ hb]
    exact openSearch_moves hq
  | resize height =>
    exact .inl ⟨moves_still (.of_same rfl rfl) rfl, fun l => not_outcome_lastLoad rfl⟩
  | @outcome x e hx now he =>
    rcases h.outcome hs hx he with ⟨-, query, token, -, rfl⟩ | ⟨c, hc, ha⟩
    · exact .inl ⟨ticked_moves hb query token, fun l => not_outcome_lastLoad rfl⟩
    · exact .inr ⟨c, x, now, hc, ha, hx, he⟩

/-- **A search goes on, and only results are counted.** -/
theorem Ongoing.step (h : Ongoing s d.engine b waiting) (ho : Opening s d.engine)
    (he : Searching d b waiting e) :
    Ongoing s d.engine (b.update e).1 (settle waiting e ++ (b.update e).2) ∧
      ((b.update e).1.view.totals = b.view.totals ∨
        (b.update e).1.view.totals = s.view.totals ∨ Recounts b e) := by
  rcases h.update ho.free ho.searchable he with ⟨hm, hk⟩ | ⟨c, x, now, hc, ha, hx, he⟩
  · refine ⟨h.move hm hk, ?_⟩
    rcases h.data_move hm with hd | hd
    · exact .inl (Prod.mk.inj hd).2
    · exact .inr (.inl (Prod.mk.inj hd).2)
  · rw [hc, List.append_nil]
    exact ⟨h.arrive ho.answered hx he ha, ha.lands.totals.imp_right .inr⟩

theorem Ongoing.run (h : Ongoing s d.engine b waiting) (ho : Opening s d.engine)
    (hes : Searches d b waiting es) :
    Ongoing s d.engine (b.run es).1 (b.owing waiting es) := by
  induction es generalizing b waiting with
  | nil => exact h
  | cons e es ih => exact ih (h.step ho hes.1).1 hes.2

/-- As long as no results are counted, the totals are those of the view without a search. -/
theorem Ongoing.totals_run (h : Ongoing s d.engine b waiting) (ho : Opening s d.engine)
    (hes : Searches d b waiting es)
    (hn : ∀ before e after, es = before ++ e :: after → ¬ Recounts (b.run before).1 e)
    (ht : b.view.totals = s.view.totals) : (b.run es).1.view.totals = s.view.totals := by
  induction es generalizing b waiting with
  | nil => exact ht
  | cons e es ih =>
    obtain ⟨hc, htc⟩ := h.step ho hes.1
    refine ih hc hes.2 (fun before f after hes => ?_) ?_
    · exact hn (e :: before) f after (by rw [hes]; rfl)
    · rcases htc with htc | htc | htc
      · exact htc.trans ht
      · exact htc
      · exact absurd htc (hn [] e es rfl)

end Browser
end MailBrowser
