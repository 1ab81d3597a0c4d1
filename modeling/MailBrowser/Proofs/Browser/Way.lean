import MailBrowser.Proofs.Browser.Quiet

/-!
# Where steps go

Every key and every event takes one of few ways: it stays, loads the same level anew, goes down
with a crumb left behind, back to a crumb, or to the top.

* `crumb`       the crumb that is left of the view on screen;
* `Orderly`     no list is kept without an open line, and only lists are asked for their scope;
* `Line`        the search line opened, closed or turned to its other mode;
* `Here`        a change at the level on screen, before it is loaded anew;
* `Down`, `Entry`   a crumb left behind, and what is loaded below it;
* `Top`         the rows of the whole archive, without a way back;
* `Way`         all ways of a step that is not an answer;
* `Filled`      what an answer may change, and at which level;
* `resume`      the browser at a crumb, before it is loaded anew.
-/

namespace MailBrowser
namespace Browser

/-- the crumb that is left of the view on screen -/
def crumb (b : Browser) : Crumb :=
  .leave b.view (!b.loading && !b.search.loading) b.search.mode b.search.total

structure Orderly (b : Browser) : Prop where
  line : b.search.snapshot.isSome = true → b.search.active = true
  scope : b.asksScope = true → b.search.active = false ∧ b.view.level.isListed = true

/-- a change that keeps order at one level -/
structure Tidy (b c : Browser) : Prop where
  line : c.search.active = true ∨ c.search.snapshot = none ∨
    (c.search.snapshot = b.search.snapshot ∧ c.search.active = b.search.active)
  scope : c.asksScope = true →
    b.asksScope = true ∧ (c.search.active = true → b.search.active = true)

structure Line (b c : Browser) : Prop extends SameBooks b c, Tidy b c where
  crumbs : c.crumbs = b.crumbs
  account : c.account = b.account
  attachmentsOnly : c.attachmentsOnly = b.attachmentsOnly
  outline : c.view.outline = b.view.outline
  query : b.view.level.isListed = true → c.view.query = b.view.query
  data : c.view.data = b.view.data
  readingIndex : c.view.readingIndex = b.view.readingIndex
  loading : c.loading = b.loading
  tag : c.selection.dimension = b.selection.dimension
  snapshot : c.search.snapshot = none ∨ c.search.snapshot = b.search.snapshot ∨
    (b.view.level = .list ∧ b.view.query.isEmpty = true ∧ b.loading = false)

structure Here (b c : Browser) : Prop extends SameBooks b c, Tidy b c where
  crumbs : c.crumbs = b.crumbs
  account : c.account = b.account
  level : c.view.level = b.view.level
  filter : c.view.filter =
    { b.view.filter with attachmentsOnly := c.view.filter.attachmentsOnly }
  snapshot : c.search.snapshot = none ∨ c.search.snapshot = b.search.snapshot
  tag : (c.selection.dimension = b.selection.dimension ∧ c.view.dimension = b.view.dimension) ∨
    c.selection.dimension = c.view.dimension

structure Down (b c : Browser) : Prop extends SameBooks b c where
  free : b.Free
  crumbs : c.crumbs = b.crumb :: b.crumbs
  account : c.account = b.account
  attachmentsOnly : c.attachmentsOnly = b.attachmentsOnly
  search : c.search.snapshot = none ∨ c.search = b.search
  dialog : c.dialog = none
  filter : b.view.filter.account = b.account → c.view.filter.account = b.account

structure Top (b c : Browser) : Prop extends SameBooks b c where
  crumbs : c.crumbs = []
  level : c.view.level = .groups
  snapshot : c.search.snapshot = none
  dialog : c.dialog = none
  tag : c.selection.dimension = c.view.dimension
  filter : c.view.filter.account = c.account

/-- The rows are asked for, perhaps with the totals of the scope. -/
inductive RowsEnding (c : Browser) : Step → Prop where
  | alone : RowsEnding c c.loadRows
  | withStats : RowsEnding c (c.loadRows.1, c.loadRows.2 ++ [c.loadRows.1.statsEffect])

/-- what the view `c` that a crumb of `b` was left for is, and what is loaded for it -/
inductive Entry (b c : Browser) : Step → Prop where
  | list (hb : b.view.level.isGrouped = true) (hc : c.view.level = .list)
      (hq : c.view.query.isEmpty = true) (hn : c.search.snapshot = none) : Entry b c c.loadMessages
  | results (hb : b.view.level.isGrouped = true) (hc : c.view.level = .list)
      (hq : c.view.query.isEmpty = false) (hn : c.search.snapshot = none) :
      Entry b c (c.searchFrom 0 false)
  | rows (hb : b.view.level = .list) (hc : c.view.level = .subgroups)
      (ht : c.selection.dimension = c.view.dimension) : Entry b c c.loadRows
  | message (message : Int) (hb : b.view.level = .list ∨ b.view.level = .thread)
      (hc : c.view.level = .reading)
      (hf : b.view.level = if c.view.readingFromThread then .thread else .list)
      (hd : c.view.data.detail = none)
      (hm : c.view.readingList[c.view.readingIndex]?.map Summary.id = some message) :
      Entry b c (c.loadDetail message)
  | thread (hb : b.view.level = .list ∨ (b.view.level = .reading ∧ b.view.data.detail.isSome = true))
      (hc : c.view.level = .thread) : Entry b c c.loadThread

inductive Way (b : Browser) : Step → Prop where
  | stay {s : Step} (h : Quietly b s) : Way b s
  | line {c : Browser} (h : Line b c) : Way b c.still
  | regroup {c : Browser} {s : Step} (hb : b.view.level.isGrouped = true) (h : Here b c)
      (hs : RowsEnding c s) : Way b s
  | relist {c : Browser} (hb : b.view.level = .list) (h : Here b c)
      (hq : c.view.query.isEmpty = true) (hn : b.Orderly → c.search.snapshot = none) :
      Way b c.loadMessages
  | search {c : Browser} (hb : b.view.level = .list) (h : Here b c)
      (hq : c.view.query.isEmpty = false) : Way b (c.searchFrom 0 false)
  /-- the list as it was before its search -/
  | retake {c : Browser} (hb : b.view.level = .list) (h : Here b c)
      (hq : c.view.query.isEmpty = true) (hs : b.search.snapshot.isSome = true) : Way b c.still
  | turn {c : Browser} (message : Int) (hb : b.view.level = .reading) (h : Here b c)
      (hf : c.view.readingFromThread = b.view.readingFromThread) (hd : c.view.data.detail = none)
      (hm : c.view.readingList[c.view.readingIndex]?.map Summary.id = some message) :
      Way b (c.loadDetail message)
  | down {c : Browser} {s : Step} (h : Down b c) (he : Entry b c s) : Way b s
  | back {crumb : Crumb} {rest : List Crumb} (hb : b.Free) (h : b.crumbs = crumb :: rest) :
      Way b b.goBack
  | top {c : Browser} {s : Step} (h : Top b c) (hs : RowsEnding c s) : Way b s
  /-- a dialog for the scope where there is no list, which does not come about -/
  | stray {s : Step} (hb : ¬ b.Orderly) (h : Ends b s) : Way b s

/-- the levels that an answer is for -/
def fits : LoadKind → Level → Bool
  | .rows, l => l.isGrouped
  | .messages, l => l = .list || l = .thread
  | .detail, l => l = .reading
  | .search, l => l = .list

/-- an answer taken in -/
structure Filled (b : Browser) (k : LoadKind) (c : Browser) : Prop
    extends SameBooks b c, SamePlace b c where
  fits : fits k b.view.level = true
  loading : k = .search → c.loading = b.loading

theorem RowsEnding.ending {c : Browser} {s : Step} (h : RowsEnding c s) : Ending c s := by
  cases h with
  | alone => exact .rows
  | withStats => exact .rowsAndStats

theorem Entry.ending {b c : Browser} {s : Step} (h : Entry b c s) : Ending c s := by
  cases h with
  | list => exact .messages
  | results => exact .search _ _
  | rows => exact .rows
  | message m hb hc hf hd hm => exact .detail m hm
  | thread => exact .thread

/-! ## loading anew -/

variable (b : Browser)

theorem reload_ends : Ends b b.reload := by
  unfold reload
  split
  · exact ⟨b, .rows, .refl b⟩
  · exact ⟨b, .rows, .refl b⟩
  · split
    · exact ⟨b, .messages, .refl b⟩
    · exact ⟨{ b with search := b.search.forgetResults }, .search _ _, rfl, rfl, .inl rfl⟩
  · exact ⟨b, .thread, .refl b⟩
  · split
    · rename_i hm
      exact ⟨b, .detail _ (by rw [hm]; rfl), .refl b⟩
    · exact ⟨b, .nothing, .refl b⟩

theorem reload_view : b.reload.1.view = b.view := by
  unfold reload
  split
  · rfl
  · rfl
  · split <;> rfl
  · rfl
  · split <;> rfl

theorem reload_samePlace : SamePlace b b.reload.1 := by
  unfold reload
  split
  · exact Ending.rows.samePlace
  · exact Ending.rows.samePlace
  · split
    · exact Ending.messages.samePlace
    · exact .of_parts rfl
  · exact Ending.thread.samePlace
  · split <;> exact .of_parts rfl

theorem reload_grouped (h : b.view.level.isGrouped = true) : b.reload = b.loadRows := by
  unfold reload
  split
  · rfl
  · rfl
  · rename_i hl
    rw [hl] at h; cases h
  · rename_i hl
    rw [hl] at h; cases h
  · rename_i hl
    rw [hl] at h; cases h

theorem reload_list (h : b.view.level = .list) :
    b.reload = if b.view.query.isEmpty then b.loadMessages else b.searchAfresh := by
  unfold reload
  rw [h]

theorem reload_thread (h : b.view.level = .thread) : b.reload = b.loadThread := by
  unfold reload
  rw [h]

/-- A message has no list to be looked up in before its list is loaded. -/
theorem reload_reading (h : b.view.level = .reading) (hd : b.view.data = {}) :
    b.reload = b.still := by
  have hr : b.view.readingList = [] := by
    unfold View.readingList
    rw [hd]
    split <;> rfl
  unfold reload
  rw [h]
  dsimp only
  rw [hr]
  rfl

theorem Here.forgetResults {b c : Browser} (h : Here b c) :
    Here b { c with search := c.search.forgetResults } :=
  ⟨⟨h.ledger, h.generation, h.flash⟩, ⟨h.line, h.scope⟩, h.crumbs, h.account, h.level, h.filter,
    h.snapshot, h.tag⟩

theorem searchAfresh_way {b c : Browser} (hb : b.view.level = .list) (h : Here b c)
    (hq : c.view.query.isEmpty = false) : Way b c.searchAfresh :=
  .search hb h.forgetResults hq

/-- A list is loaded anew with its query, if it has one. -/
theorem reload_way {b c : Browser} (hb : b.view.level = .list) (h : Here b c)
    (hn : b.Orderly → c.search.snapshot = none) : Way b c.reload := by
  rw [reload_list c (h.level.trans hb)]
  by_cases hq : c.view.query.isEmpty = true
  · rw [if_pos hq]
    exact .relist hb h hq hn
  · rw [if_neg hq]
    exact searchAfresh_way hb h (by simpa using hq)

/-! ## back -/

/-- the browser at a crumb, before it is loaded anew -/
def resume (b : Browser) (c : Crumb) (rest : List Crumb) : Browser :=
  let view := resumeAfter b.view c.restore b.pageSize
  { b with
    view
    crumbs := rest
    error := none
    loading := false
    search := resumeSearch b.search view c
    selection := retagFor b.selection view }

theorem goBack_eq {b : Browser} {c : Crumb} {rest : List Crumb} (h : b.crumbs = c :: rest) :
    b.goBack = if c.isKept then (b.resume c rest).still else (b.resume c rest).reload := by
  unfold goBack
  rw [h]
  rfl

theorem outline_resumeAfter (left v : View) (page : Nat) :
    (resumeAfter left v page).outline = v.outline := by
  unfold resumeAfter
  split <;> rfl

theorem data_resumeAfter (left v : View) (page : Nat) : (resumeAfter left v page).data = v.data := by
  unfold resumeAfter
  split <;> rfl

theorem query_resumeAfter (left v : View) (page : Nat) :
    (resumeAfter left v page).query = v.query := by
  unfold resumeAfter
  split <;> rfl

theorem outline_resume (b : Browser) (c : Crumb) (rest : List Crumb) :
    (b.resume c rest).view.outline = c.view.outline := outline_resumeAfter _ _ _

theorem query_resume (b : Browser) (c : Crumb) (rest : List Crumb) :
    (b.resume c rest).view.query = c.view.query := query_resumeAfter _ _ _

theorem level_resume (b : Browser) (c : Crumb) (rest : List Crumb) :
    (b.resume c rest).view.level = c.view.level :=
  View.of_outline View.level (fun _ => rfl) (outline_resume b c rest)

end Browser
end MailBrowser
