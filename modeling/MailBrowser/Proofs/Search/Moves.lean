import MailBrowser.Proofs.Search.Cancelling

/-!
# What a search does at its view

As long as its keys go to the search line, the view stays.  What a search changes is the query, what
is loaded, and the totals; what it asks for are ticks, pages of results, and the loads of the view
with its query.

* `footing`     what a search leaves alone; `listing`, `grouping` the loads of a view that stands on it;
* `display`     what a search may change;
* `Move`        what a key or a tick does to the display, and what it asks for;
* `Moves`       moreover on the same footing: `cancelSearch_moves` to `ticked_moves`;
* `Lands`       what becomes of an answer, also on the same footing.
-/

namespace MailBrowser
namespace Browser
open Text

def footing (b : Browser) : (Level × Dimension × Filter × RowField × Direction × MessageField ×
    Direction × Granularity × Find) × List Crumb × Option Int × Bool × Tuning × Option String ×
    Option Dialog :=
  ((b.view.level, b.view.dimension, b.view.filter, b.view.rowField, b.view.rowDirection,
    b.view.messageField, b.view.messageDirection, b.view.granularity, b.view.find), b.crumbs,
    b.account, b.attachmentsOnly, b.tuning, b.busy, b.dialog)

/-- the load of a message list -/
def listing (b : Browser) (id : Nat) : Effect :=
  .loadMessages id b.listFilter
    { sortField := b.view.messageField, direction := b.view.messageDirection }

/-- the load of rows within a drill -/
def grouping (b : Browser) (id : Nat) (query : String) : Effect :=
  .loadRows id b.view.dimension (some b.view.filter) (b.withQuery query).groupOptions

def display (b : Browser) : String × Loaded × Option Stats × Ledger :=
  (b.view.query, b.view.data, b.view.totals, b.ledger)

inductive Move (b : Browser) (s : Step) : Prop where
  /-- At most a tick is asked for, under the last token. -/
  | still (hv : s.1.display = b.display)
      (hx : ∀ x ∈ s.2, x = .quit ∨ ∃ delay query, x = .searchTick delay query s.1.search.token)
  /-- The list that was kept is shown again. -/
  | retake (t : ListSnapshot) (hl : b.view.level = .list) (ht : b.search.snapshot = some t)
      (hv : s.1.display = ("", { b.view.data with messages := t.messages }, t.totals, b.ledger))
      (hx : s.2 = [])
  | search (id : Nat) (q : SearchRequest) (query : String) (hl : b.view.level = .list)
      (hq : query.isEmpty = false)
      (hv : s.1.display = (query, b.view.data, b.view.totals, b.ledger.issue .search))
      (hx : s.2 = [.search id q])
  | relist (hl : b.view.level = .list)
      (hv : s.1.display = ("", b.view.data, b.view.totals, b.ledger.issue .messages))
      (hx : s.2 = [b.listing (b.ledger.messages + 1)])
  | regroup (query : String) (hl : b.view.level = .subgroups)
      (hv : s.1.display = (query, b.view.data, b.view.totals, b.ledger.issue .rows))
      (hx : s.2 = [b.grouping (b.ledger.rows + 1) query])

/-- the same place, and a list that is kept is let go or stays the same -/
structure Stays (b c : Browser) : Prop where
  footing : c.footing = b.footing
  token : b.search.token ≤ c.search.token
  snapshot : c.search.snapshot = none ∨ c.search.snapshot = b.search.snapshot

structure Moves (b : Browser) (s : Step) : Prop extends Stays b s.1 where
  move : Move b s

variable {b c : Browser} {s : Step}

theorem Stays.of_same (hf : c.footing = b.footing) (hs : c.search = b.search) : Stays b c :=
  ⟨hf, hs ▸ Nat.le_refl _, .inr (by rw [hs])⟩

theorem Stays.refl (b : Browser) : Stays b b := .of_same rfl rfl

theorem listing_of_footing (h : c.footing = b.footing) (id : Nat) : c.listing id = b.listing id := by
  simp only [footing, Prod.mk.injEq] at h
  obtain ⟨⟨-, -, hf, -, -, hm, hd, -⟩, -, ha, hs, -⟩ := h
  unfold listing listFilter
  rw [hf, hm, hd, ha, hs]

theorem grouping_of_footing (h : c.footing = b.footing) (id : Nat) (query : String) :
    c.grouping id query = b.grouping id query := by
  simp only [footing, Prod.mk.injEq] at h
  obtain ⟨⟨-, hd, hf, hr, ho, -, -, hg, -⟩, -, ha, hs, ht, -⟩ := h
  unfold grouping groupOptions withQuery
  dsimp only
  rw [hd, hf, hr, ho, hg, ha, hs, ht]

theorem level_of_footing (h : c.footing = b.footing) : c.view.level = b.view.level :=
  congrArg (·.1.1) h

theorem moves_still (h : Stays b c) (hv : c.display = b.display) : Moves b c.still :=
  ⟨h, .still hv fun x hx => by cases hx⟩

/-! ## loads -/

theorem loadRows_asks_grouping (hl : b.view.level = .subgroups) :
    b.loadRows.2 = [b.grouping (b.ledger.rows + 1) b.view.query] := by
  show [Effect.loadRows _ b.view.dimension
    (if b.view.level = .subgroups then some b.view.filter else none) b.groupOptions] = _
  rw [if_pos hl]
  rfl

theorem relist_moves (h : Stays b c) (hl : b.view.level = .list)
    (hv : c.display = ("", b.view.data, b.view.totals, b.ledger)) : Moves b c.loadMessages := by
  simp only [display, Prod.mk.injEq] at hv
  obtain ⟨hq, hd, ht, hg⟩ := hv
  refine ⟨⟨h.footing, h.token, h.snapshot⟩, .relist hl ?_ ?_⟩
  · show (c.view.query, c.view.data, c.view.totals, c.ledger.issue .messages) = _
    rw [hq, hd, ht, hg]
  · rw [← hg]
    exact congrArg (fun x => [x]) (listing_of_footing h.footing _)

theorem regroup_moves (h : Stays b c) (hl : b.view.level = .subgroups)
    (hv : (c.view.data, c.view.totals, c.ledger) = (b.view.data, b.view.totals, b.ledger)) :
    Moves b c.loadRows := by
  simp only [Prod.mk.injEq] at hv
  obtain ⟨hd, ht, hg⟩ := hv
  refine ⟨⟨h.footing, h.token, h.snapshot⟩, .regroup c.view.query hl ?_ ?_⟩
  · show (c.view.query, c.view.data, c.view.totals, c.ledger.issue .rows) = _
    rw [hd, ht, hg]
  · rw [loadRows_asks_grouping ((level_of_footing h.footing).trans hl), hg,
      grouping_of_footing h.footing]

theorem searchAfresh_moves (h : Stays b c) (hl : b.view.level = .list)
    (hq : c.view.query.isEmpty = false)
    (hv : (c.view.data, c.view.totals, c.ledger) = (b.view.data, b.view.totals, b.ledger)) :
    Moves b c.searchAfresh := by
  simp only [Prod.mk.injEq] at hv
  obtain ⟨hd, ht, hg⟩ := hv
  refine ⟨⟨h.footing, h.token, h.snapshot⟩, .search _ _ c.view.query hl hq ?_ rfl⟩
  show (c.view.query, c.view.data, c.view.totals, c.ledger.issue .search) = _
  rw [hd, ht, hg]

/-- A list without a query: the one that is kept, or a new load. -/
theorem clearSearch_moves (h : Stays b c) (hl : b.view.level = .list)
    (hs : c.search.snapshot = b.search.snapshot)
    (hv : (c.view.data, c.view.totals, c.ledger) = (b.view.data, b.view.totals, b.ledger)) :
    Moves b c.clearSearch := by
  cases ht : c.search.snapshot with
  | none =>
    rw [clearSearch_of_none c ht]
    refine relist_moves ⟨h.footing, h.token, h.snapshot⟩ hl ?_
    exact congrArg (fun v => ("", v)) hv
  | some t =>
    simp only [Prod.mk.injEq] at hv
    obtain ⟨hd, -, hg⟩ := hv
    rw [clearSearch_of_snapshot c ht]
    refine ⟨⟨h.footing, h.token, h.snapshot⟩, .retake t hl (hs.symm.trans ht) ?_ rfl⟩
    show ("", { c.view.data with messages := t.messages }, t.totals, c.ledger) = _
    rw [hd, hg]

/-! ## keys -/

/-- a list, or rows within a drill -/
def Searchable (b : Browser) : Prop := b.view.level = .list ∨ b.view.level = .subgroups

theorem cancelSearch_moves (hb : b.Searchable) : Moves b b.cancelSearch := by
  unfold cancelSearch
  dsimp only
  split
  · rename_i h
    rw [Bool.and_eq_true, decide_eq_true_eq] at h
    obtain ⟨t, ht⟩ := Option.isSome_iff_exists.1 h.2
    rw [clearSearch_of_snapshot _ ht]
    exact ⟨⟨rfl, Nat.le_succ _, .inl rfl⟩, .retake t h.1 ht rfl rfl⟩
  · have hc : Stays b ((b.withSearch { b.search with active := false, input := "" }.bumpToken).withSearch
        { (b.withSearch { b.search with active := false, input := "" }.bumpToken).search with
          snapshot := none }.forgetResults) := ⟨rfl, Nat.le_succ _, .inl rfl⟩
    split
    · exact moves_still hc rfl
    · split
      · rename_i hl
        exact relist_moves ⟨hc.footing, hc.token, hc.snapshot⟩ hl rfl
      · rename_i hl
        rcases hb with h | h <;> cases h.symm.trans hl
      · rename_i hl
        refine regroup_moves ⟨?_, hc.token, hc.snapshot⟩ hl ?_
        · rfl
        · show (b.view.data, if b.view.level = .groups then none else b.view.totals, b.ledger) = _
          rw [show b.view.level = .subgroups from hl]
          rfl
      · rename_i h1 h2 h3
        rcases hb with h | h
        · exact absurd h h1
        · exact absurd h h3

theorem commitSearch_moves (hb : b.Searchable) : Moves b b.commitSearch := by
  unfold commitSearch
  dsimp only
  generalize trim b.search.input = query
  split
  · exact cancelSearch_moves hb
  · rename_i hq
    split
    · rename_i hl
      exact searchAfresh_moves ⟨rfl, Nat.le_succ _, .inl rfl⟩ hl (Bool.eq_false_iff.2 hq) rfl
    · rename_i hl
      rcases hb with h | h <;> cases h.symm.trans hl
    · rename_i hl
      split
      · exact moves_still ⟨rfl, Nat.le_succ _, .inl rfl⟩ rfl
      · exact regroup_moves ⟨rfl, Nat.le_succ _, .inl rfl⟩ hl rfl
    · exact moves_still ⟨rfl, Nat.le_succ _, .inl rfl⟩ rfl

theorem toggleMode_moves (b : Browser) : Moves b b.toggleMode := by
  unfold toggleMode
  split
  · rename_i hl
    dsimp only [withSearch, SearchSession.bumpToken]
    generalize trim b.search.input = query
    split
    · exact moves_still ⟨rfl, Nat.le_succ _, .inr rfl⟩ rfl
    · rename_i hq
      exact searchAfresh_moves ⟨rfl, Nat.le_succ _, .inr rfl⟩ hl (Bool.eq_false_iff.2 hq) rfl
  · exact moves_still (.refl b) rfl

theorem typed_moves (b : Browser) (input : String) : Moves b (b.typed input) := by
  refine ⟨⟨rfl, Nat.le_succ _, .inr rfl⟩, .still rfl fun x hx => .inr ?_⟩
  exact ⟨_, input, List.mem_singleton.1 hx⟩

theorem pressInSearch_moves (hb : b.Searchable) (k : Key) : Moves b (b.pressInSearch k) := by
  unfold pressInSearch
  split
  · exact cancelSearch_moves hb
  · exact commitSearch_moves hb
  · exact toggleMode_moves b
  · exact typed_moves b _
  · exact typed_moves b _
  · exact typed_moves b _
  · exact moves_still (.refl b) rfl

theorem applyQuery_moves (hb : b.Searchable) (query : String) : Moves b (b.applyQuery query) := by
  unfold applyQuery
  dsimp only
  split
  · rename_i hl
    split
    · exact clearSearch_moves (.of_same rfl rfl) hl rfl rfl
    · rename_i hq
      exact searchAfresh_moves (.of_same rfl rfl) hl (Bool.eq_false_iff.2 hq) rfl
  · rename_i hl
    rcases hb with h | h <;> cases h.symm.trans hl
  · rename_i hl
    rw [if_neg fun h => by cases h.2.symm.trans hl]
    exact regroup_moves ⟨rfl, Nat.le_refl _, .inr rfl⟩ hl rfl
  · rename_i h1 h2 h3
    rcases hb with h | h
    · exact absurd h h1
    · exact absurd h h3

theorem ticked_moves (hb : b.Searchable) (query : String) (token : Nat) :
    Moves b (b.ticked query token) := by
  unfold ticked
  split
  · exact applyQuery_moves hb _
  · exact moves_still (.refl b) rfl

/-- Over results, nothing is kept. -/
theorem openSearch_moves (hq : b.view.query.isEmpty = false) : Moves b b.openSearch := by
  unfold openSearch
  split
  · rw [hq, Bool.and_false, Bool.false_and]
    exact moves_still ⟨rfl, Nat.le_refl _, .inr rfl⟩ rfl
  · exact moves_still (.refl b) rfl

theorem press_moves (hb : b.Searchable) (hi : b.busy = none) (hd : b.dialog = none)
    (ha : b.search.active = true) (k : Key) : Moves b (b.press k) := by
  rw [press_of_line hi hd ha]
  split
  · exact ⟨.of_same rfl rfl, .still rfl fun x hx => .inl (List.mem_singleton.1 hx)⟩
  · exact pressInSearch_moves hb k

/-! ## answers -/

/-- an answer that is dropped, or shown where it belongs -/
inductive Lands (b : Browser) (e : Event) (c : Browser) : Prop where
  | dropped (hn : ¬ b.Shows e) (hv : c.display = b.display)
  | messages (messages : List Summary) (hl : b.view.level = .list) (hs : b.Shows e)
      (he : e = .messagesLoaded b.ledger.messages (.ok messages))
      (hv : c.display = ("", { b.view.data with messages }, b.view.totals, b.ledger))
  | page (messages : List Summary) (totals : Option Stats) (hl : b.view.level = .list)
      (hq : b.view.query.isEmpty = false) (hs : b.Shows e)
      (hv : c.display = (b.view.query, { b.view.data with messages }, totals, b.ledger))
  | rows (rows : List Row) (hl : b.view.level = .subgroups) (hq : b.view.query.isEmpty = true)
      (hs : b.Shows e)
      (he : e = .rowsLoaded b.ledger.rows (.ok rows))
      (hv : c.display = ("", { b.view.data with rows }, b.view.totals, b.ledger))
  | found (rows : List Row) (hl : b.view.level = .subgroups) (hq : b.view.query.isEmpty = false)
      (hs : b.Shows e)
      (hv : c.display = (b.view.query, { b.view.data with rows }, some (.sumRows rows), b.ledger))

theorem Lands.of_not_shows {e : Event} (h : Lands b e c) (hn : ¬ b.Shows e) :
    c.display = b.display := by
  cases h with
  | dropped _ hv => exact hv
  | messages _ _ hs => exact absurd hs hn
  | page _ _ _ _ hs => exact absurd hs hn
  | rows _ _ _ hs => exact absurd hs hn
  | found _ _ _ hs => exact absurd hs hn

structure Arrives (b : Browser) (e : Event) (c : Browser) : Prop extends Stays b c where
  active : c.search.active = b.search.active
  lands : Lands b e c

theorem Arrives.dropped {e : Event} (hn : ¬ b.Shows e) (hf : c.footing = b.footing)
    (hs : c.search = b.search) (hv : c.display = b.display) : Arrives b e c :=
  ⟨.of_same hf hs, by rw [hs], .dropped hn hv⟩

theorem rowsArrived_arrives (hb : b.Searchable) (id : Nat) (r : Answer (List Row)) :
    Arrives b (.rowsLoaded id r) (b.rowsArrived id r) := by
  unfold rowsArrived
  split
  · rename_i h
    rw [Bool.and_eq_true] at h
    obtain rfl : b.ledger.rows = id := beq_iff_eq.1 h.1
    have hl : b.view.level = .subgroups := by
      rcases hb with hl | hl
      · rw [hl] at h; cases h.2
      · exact hl
    cases r with
    | error q => exact .dropped (fun hs => hs) rfl rfl rfl
    | ok rows =>
      refine ⟨.of_same rfl rfl, rfl, ?_⟩
      cases hq : b.view.query.isEmpty with
      | true =>
        refine .rows rows hl hq ⟨rfl, h.2⟩ rfl ?_
        show (b.view.query, _, rowTotals b.view rows, _) = _
        unfold rowTotals
        rw [hq, hl, String.isEmpty_iff.1 hq]
        rfl
      | false =>
        refine .found rows hl hq ⟨rfl, h.2⟩ ?_
        show (b.view.query, _, rowTotals b.view rows, _) = _
        unfold rowTotals
        rw [hq]
        rfl
  · rename_i h
    refine .dropped (fun hs => h ?_) rfl rfl rfl
    cases r with
    | error q => exact hs.elim
    | ok rows =>
      rw [Bool.and_eq_true]
      exact ⟨beq_iff_eq.2 hs.1.symm, hs.2⟩

theorem messagesArrived_arrives (b : Browser) (id : Nat) (r : Answer (List Summary)) :
    Arrives b (.messagesLoaded id r) (b.messagesArrived id r) := by
  unfold messagesArrived
  split
  · rename_i h
    rw [Bool.and_eq_true, decide_eq_true_eq] at h
    obtain rfl : b.ledger.messages = id := beq_iff_eq.1 h.1
    dsimp only
    split
    · rename_i hq
      refine .dropped (fun hs => ?_) rfl rfl rfl
      cases r with
      | error q => exact hs.elim
      | ok messages =>
        rw [hs.2.2] at hq
        cases hq
    · rename_i hq
      have hq : b.view.query.isEmpty = true := by simpa using hq
      cases r with
      | error q => exact .dropped (fun hs => hs) rfl rfl rfl
      | ok messages =>
        refine ⟨.of_same rfl rfl, rfl, .messages messages h.2 ⟨rfl, h.2, hq⟩ rfl ?_⟩
        show (b.view.query, _) = _
        rw [String.isEmpty_iff.1 hq]
        rfl
  · rename_i h
    refine .dropped (fun hs => h ?_) rfl rfl rfl
    cases r with
    | error q => exact hs.elim
    | ok messages =>
      rw [Bool.and_eq_true, decide_eq_true_eq]
      exact ⟨beq_iff_eq.2 hs.1.symm, hs.2.1⟩

theorem searchArrived_arrives (b : Browser) (id : Nat) (append : Bool) (r : Answer SearchPage) :
    Arrives b (.searchLoaded id append r) (b.searchArrived id append r) := by
  unfold searchArrived
  split
  · rename_i h
    rw [Bool.and_eq_true, Bool.and_eq_true, decide_eq_true_eq, Bool.not_eq_true'] at h
    cases r with
    | error q => exact ⟨⟨rfl, Nat.le_refl _, .inr rfl⟩, rfl, .dropped (fun hs => hs) rfl⟩
    | ok page =>
      refine ⟨⟨rfl, Nat.le_refl _, .inr rfl⟩, rfl, .page _ _ h.1.2 h.2 ?_ rfl⟩
      exact ⟨(beq_iff_eq.1 h.1.1).symm, h.1.2, h.2⟩
  · rename_i h
    refine .dropped (fun hs => h ?_) rfl rfl rfl
    cases r with
    | error q => exact hs.elim
    | ok page =>
      rw [Bool.and_eq_true, Bool.and_eq_true, decide_eq_true_eq, Bool.not_eq_true']
      exact ⟨⟨beq_iff_eq.2 hs.1.symm, hs.2.1⟩, hs.2.2⟩

end Browser
end MailBrowser
