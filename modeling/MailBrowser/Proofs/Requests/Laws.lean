import MailBrowser.Proofs.Requests.Since

/-!
# The laws of the five kinds of requests

For each kind: what holds of the crumbs above the view that made the request, what holds of the
browser, and that no way of a step breaks it.

* `RowsNow`, `RowsPast`   all rows above are those of the request;
* `ListNow`, `ListPast`   a list above has a query of its own, or the list is the one asked for;
* `ThreadNow`, `ThreadPast`   all threads above are the one of the request;
* `ReadingNow`, `ReadingPast`   no message can be left before it has come;
* `ResultsNow`, `ResultsPast`   all results above are of the query and the drill of the request.
-/

namespace MailBrowser

/-- the constraints of a filter, without its account and its scope -/
def Filter.unscoped (f : Filter) : Filter := { f with account := none, attachmentsOnly := false }

namespace Browser

variable {b c : Browser}

theorem Here.level_eq (h : Here b c) {l : Level} (hl : b.view.level = l) : c.view.level = l :=
  h.level.trans hl

theorem ne_of_grouped {l m : Level} (hg : l.isGrouped = true) (hm : m.isGrouped = false) : l ≠ m := by
  rintro rfl
  rw [hg] at hm
  cases hm

/-! ## rows -/

theorem rowStance_congr {v w : View} (ho : w.outline = v.outline) (hq : w.query = v.query) :
    w.rowStance = v.rowStance := by
  have hd := View.of_outline View.dimension (fun _ => rfl) ho
  have hl := View.of_outline View.level (fun _ => rfl) ho
  have hf := View.of_outline View.filter (fun _ => rfl) ho
  have hg := View.of_outline View.granularity (fun _ => rfl) ho
  unfold View.rowStance
  rw [hd, hl, hf, hg, hq]

def RowsNow (st : Stance) (b : Browser) : Prop :=
  b.view.level.isGrouped = true → b.view.rowStance = st

def RowsPast (st : Stance) (crumb : Crumb) : Prop :=
  crumb.view.level.isGrouped = true → crumb.view.rowStance = st

theorem SamePlace.rowsNow {st : Stance} (h : SamePlace b c) (hb : RowsNow st b) : RowsNow st c := by
  intro hg
  rw [h.level] at hg
  exact (rowStance_congr h.outline (h.query (isListed_of_isGrouped hg))).trans (hb hg)

theorem rowsNow_of_level {st : Stance} (h : b.view.level.isGrouped = false) : RowsNow st b := by
  intro hg
  rw [h] at hg
  cases hg

theorem rows_law (st : Stance) (account : Option Int) :
    Law .rows account (RowsPast st) (RowsNow st) where
  scene h := h.toSamePlace.rowsNow
  filled _ h := h.toSamePlace.rowsNow
  line {b c} h hb hg := by
    have hl : c.view.level = b.view.level := View.of_outline View.level (fun _ => rfl) h.outline
    rw [hl] at hg
    exact (rowStance_congr h.outline (h.query (isListed_of_isGrouped hg))).trans (hb hg)
  regroup hk := absurd rfl hk
  relist _ hl h _ _ := rowsNow_of_level (by rw [h.level_eq hl]; rfl)
  search _ hl h _ _ := rowsNow_of_level (by rw [h.level_eq hl]; rfl)
  retake hl h _ _ _ := rowsNow_of_level (by rw [h.level_eq hl]; rfl)
  turn _ hl h _ := rowsNow_of_level (by rw [h.level_eq hl]; rfl)
  down {b c s} h he hk hb := by
    refine ⟨hb, ?_⟩
    cases he with
    | list _ hc => exact rowsNow_of_level (by rw [hc]; rfl)
    | results _ hc => exact rowsNow_of_level (by rw [hc]; rfl)
    | rows _ hc => exact absurd rfl (Ledger.ne_of_current (l := c.ledger) (j := .rows) rfl hk)
    | message _ _ hc => exact rowsNow_of_level (by rw [hc]; rfl)
    | thread _ hc => exact rowsNow_of_level (by rw [hc]; rfl)
  back {b crumb} _ ho hq _ _ hc hg := by
    have hl : b.view.level = crumb.view.level := View.of_outline View.level (fun _ => rfl) ho
    rw [hl] at hg
    exact (rowStance_congr ho hq).trans (hc hg)

/-! ## threads -/

def ThreadNow (conversation : Int) (b : Browser) : Prop :=
  b.view.level = .thread → b.view.conversation = conversation

def ThreadPast (conversation : Int) (crumb : Crumb) : Prop :=
  crumb.view.level = .thread → crumb.view.conversation = conversation

theorem threadNow_of_outline {conversation : Int} (h : c.view.outline = b.view.outline)
    (hb : ThreadNow conversation b) : ThreadNow conversation c := by
  intro ht
  rw [View.of_outline View.level (fun _ => rfl) h] at ht
  exact (View.of_outline View.conversation (fun _ => rfl) h).trans (hb ht)

theorem thread_law (conversation : Int) (account : Option Int) :
    Law .messages account (ThreadPast conversation) (ThreadNow conversation) where
  scene h := threadNow_of_outline h.outline
  filled _ h := threadNow_of_outline h.outline
  line h := threadNow_of_outline h.outline
  regroup _ hg h _ ht := by
    rw [h.level] at ht
    exact absurd ht (ne_of_grouped hg rfl)
  relist hk := absurd rfl hk
  search _ hl h _ _ ht := by rw [h.level_eq hl] at ht; cases ht
  retake hl h _ _ _ ht := by rw [h.level_eq hl] at ht; cases ht
  turn _ hl h _ ht := by rw [h.level_eq hl] at ht; cases ht
  down {b c s} h he hk hb := by
    refine ⟨hb, fun ht => ?_⟩
    cases he with
    | list _ hc => rw [hc] at ht; cases ht
    | results _ hc => rw [hc] at ht; cases ht
    | rows _ hc => rw [hc] at ht; cases ht
    | message _ _ hc => rw [hc] at ht; cases ht
    | thread => exact absurd rfl (Ledger.ne_of_current (l := c.ledger) (j := .messages) rfl hk)
  back {b crumb} _ ho _ _ _ hc ht := by
    rw [View.of_outline View.level (fun _ => rfl) ho] at ht
    exact (View.of_outline View.conversation (fun _ => rfl) ho).trans (hc ht)

/-! ## messages on screen -/

/-- The message that was asked for is the one to be read, and none is there to go on from. -/
def ReadingNow (message : Int) (b : Browser) : Prop :=
  b.view.level = .reading →
    b.view.data.detail = none ∧ b.view.readingId? = some message

def ReadingPast (crumb : Crumb) : Prop := crumb.view.level ≠ .reading

theorem index_lt_of_readingId {v : View} {message : Int} (h : v.readingId? = some message) :
    v.readingIndex < v.readingList.length := by
  unfold View.readingId? at h
  obtain ⟨m, hm, -⟩ := Option.map_eq_some_iff.1 h
  exact (List.getElem?_eq_some_iff.1 hm).1

theorem SameScene.readingNow {message : Int} (h : SameScene b c) (hb : ReadingNow message b) :
    ReadingNow message c := by
  intro hr
  rw [h.level] at hr
  obtain ⟨hd, hm⟩ := hb hr
  refine ⟨by rw [h.data]; exact hd, ?_⟩
  unfold View.readingId?
  rw [h.readingList, h.reading (index_lt_of_readingId hm)]
  exact hm

theorem reading_law (message : Int) (account : Option Int) :
    Law .detail account ReadingPast (ReadingNow message) where
  scene h := h.readingNow
  filled {b c j} hj h hb hr := by
    rw [h.level] at hr
    have hf := h.fits
    rw [hr] at hf
    cases j with
    | detail => exact absurd rfl hj
    | _ => cases hf
  line {b c} h hb hr := by
    rw [View.of_outline View.level (fun _ => rfl) h.outline] at hr
    obtain ⟨hd, hm⟩ := hb hr
    refine ⟨by rw [h.data]; exact hd, ?_⟩
    unfold View.readingId?
    rw [View.readingList_eq h.outline h.data, h.readingIndex]
    exact hm
  regroup _ hg h _ hr := by
    rw [h.level] at hr
    exact absurd hr (ne_of_grouped hg rfl)
  relist _ hl h _ _ hr := by rw [h.level_eq hl] at hr; cases hr
  search _ hl h _ _ hr := by rw [h.level_eq hl] at hr; cases hr
  retake hl h _ _ _ hr := by rw [h.level_eq hl] at hr; cases hr
  turn hk := absurd rfl hk
  down {b c s} h he hk hb := by
    cases he with
    | list hg hc => exact ⟨ne_of_grouped hg rfl, fun hr => by rw [hc] at hr; cases hr⟩
    | results hg hc => exact ⟨ne_of_grouped hg rfl, fun hr => by rw [hc] at hr; cases hr⟩
    | rows hl hc =>
      refine ⟨fun hr => ?_, fun hr => by rw [hc] at hr; cases hr⟩
      rw [show b.view.level = .reading from hr] at hl; cases hl
    | message => exact absurd rfl (Ledger.ne_of_current (l := c.ledger) (j := .detail) rfl hk)
    | thread hl hc =>
      refine ⟨fun hr => ?_, fun hr => by rw [hc] at hr; cases hr⟩
      have hr : b.view.level = .reading := hr
      rcases hl with hl | ⟨-, hd⟩
      · rw [hr] at hl; cases hl
      · rw [(hb hr).1] at hd; cases hd
  back {b crumb} _ ho _ _ _ hc hr := by
    rw [View.of_outline View.level (fun _ => rfl) ho] at hr
    exact absurd hr hc

/-! ## lists -/

/-- No list is kept behind a search, and a list without a query is the one that was asked for. -/
def ListNow (filter : Filter) (b : Browser) : Prop :=
  b.view.level = .list → b.search.snapshot = none ∧
    (b.view.query.isEmpty = false ∨ (b.loading = true ∧ b.listFilter = filter))

/-- A list without a query will be asked for again. -/
def ListPast (crumb : Crumb) : Prop :=
  crumb.view.level = .list → crumb.view.query.isEmpty = false ∨ crumb.isKept = false

theorem SamePlace.listFilter (h : SamePlace b c) : c.listFilter = b.listFilter := by
  unfold Browser.listFilter
  rw [h.filter, h.account, h.attachmentsOnly]

theorem SamePlace.listNow {filter : Filter} (h : SamePlace b c)
    (hw : b.view.level = .list → b.loading = true → c.loading = true) (hb : ListNow filter b) :
    ListNow filter c := by
  intro hl
  rw [h.level] at hl
  obtain ⟨hs, hq⟩ := hb hl
  refine ⟨h.snapshot.trans hs, ?_⟩
  rw [h.query (by rw [hl]; rfl), h.listFilter]
  exact hq.imp id fun ⟨hb, hf⟩ => ⟨hw hl hb, hf⟩

/-- A list that is left while it is loaded, or searched, is past. -/
theorem ListNow.past {filter : Filter} (hb : ListNow filter b) : ListPast b.crumb := by
  intro hl
  rcases (hb hl).2 with hq | ⟨hw, -⟩
  · exact .inl hq
  · refine .inr ?_
    show (if (!b.loading && !b.search.loading) = true then some b.view.data else none).isSome = false
    rw [hw]
    rfl

theorem list_law (filter : Filter) (account : Option Int) :
    Law .messages account ListPast (ListNow filter) where
  scene h := h.toSamePlace.listNow fun _ => h.loading
  filled {b c j} hj h hb := by
    refine h.toSamePlace.listNow (fun hl hw => ?_) hb
    have hf := h.fits
    rw [hl] at hf
    cases j with
    | search => exact (h.loading rfl).trans hw
    | messages => exact absurd rfl hj
    | _ => cases hf
  line {b c} h hb hl := by
    rw [View.of_outline View.level (fun _ => rfl) h.outline] at hl
    obtain ⟨hs, hq⟩ := hb hl
    have hf : c.listFilter = b.listFilter := by
      unfold Browser.listFilter
      rw [View.of_outline View.filter (fun _ => rfl) h.outline, h.account, h.attachmentsOnly]
    refine ⟨?_, ?_⟩
    · rcases h.snapshot with hn | hn | ⟨-, he, hw⟩
      · exact hn
      · exact hn.trans hs
      · -- a list is kept only when it has come
        rcases hq with hq | ⟨hw', -⟩
        · rw [he] at hq; cases hq
        · rw [hw] at hw'; cases hw'
    · rw [h.query (by rw [hl]; rfl), h.loading, hf]
      exact hq
  regroup _ hg h _ hl := by
    rw [h.level] at hl
    exact absurd hl (ne_of_grouped hg rfl)
  relist hk := absurd rfl hk
  search _ hl h hq hb _ := by
    refine ⟨?_, .inl hq⟩
    rcases h.snapshot with hn | hn
    · exact hn
    · exact hn.trans (hb hl).1
  retake hl h _ hs hb := by
    rw [(hb hl).1] at hs
    cases hs
  turn _ hl h _ hr := by rw [h.level_eq hl] at hr; cases hr
  down {b c s} h he hk hb := by
    refine ⟨hb.past, fun hl => ?_⟩
    cases he with
    | list => exact absurd rfl (Ledger.ne_of_current (l := c.ledger) (j := .messages) rfl hk)
    | results _ _ hq hn => exact ⟨hn, .inl hq⟩
    | rows _ hc => rw [hc] at hl; cases hl
    | message _ _ hc => rw [hc] at hl; cases hl
    | thread => exact absurd rfl (Ledger.ne_of_current (l := c.ledger) (j := .messages) rfl hk)
  back {b crumb} hr ho hq hs _ hc hl := by
    refine ⟨hs, .inl ?_⟩
    rw [View.of_outline View.level (fun _ => rfl) ho] at hl
    rw [hq]
    rcases hc hl with hq | hk
    · exact hq
    · rcases hr with hr | hr | hr
      · rw [hk] at hr; cases hr
      · rw [hl] at hr; cases hr
      · unfold View.loads at hr
        rw [hl] at hr
        exact Bool.eq_false_iff.2 fun he => hr (if_pos he).symm

/-! ## results of searches -/

def ResultsNow (r : SearchRequest) (b : Browser) : Prop :=
  b.view.level = .list → b.view.query.isEmpty = false →
    b.view.query = r.query ∧ b.view.filter.unscoped = r.filter.unscoped

def ResultsPast (r : SearchRequest) (crumb : Crumb) : Prop :=
  crumb.view.level = .list → crumb.view.query.isEmpty = false →
    crumb.view.query = r.query ∧ crumb.view.filter.unscoped = r.filter.unscoped

theorem resultsNow_of_outline {r : SearchRequest} (ho : c.view.outline = b.view.outline)
    (hq : b.view.level.isListed = true → c.view.query = b.view.query) (hb : ResultsNow r b) :
    ResultsNow r c := by
  intro hl he
  rw [View.of_outline View.level (fun _ => rfl) ho] at hl
  have hq := hq (by rw [hl]; rfl)
  rw [hq] at he
  rw [hq, View.of_outline View.filter (fun _ => rfl) ho]
  exact hb hl he

theorem resultsNow_of_level {r : SearchRequest} {l : Level} (h : b.view.level = l) (hl : l ≠ .list) :
    ResultsNow r b := fun h' => absurd (h.symm.trans h') hl

theorem resultsNow_of_query {r : SearchRequest} (h : b.view.query.isEmpty = true) :
    ResultsNow r b := by
  intro _ he
  rw [h] at he
  cases he

theorem results_law (r : SearchRequest) (account : Option Int) :
    Law .search account (ResultsPast r) (ResultsNow r) where
  scene h := resultsNow_of_outline h.outline h.query
  filled _ h := resultsNow_of_outline h.outline h.query
  line h := resultsNow_of_outline h.outline h.query
  regroup _ hg h _ := resultsNow_of_level h.level (ne_of_grouped hg rfl)
  relist _ _ _ hq _ := resultsNow_of_query hq
  search hk := absurd rfl hk
  retake _ _ hq _ _ := resultsNow_of_query hq
  turn _ hl h _ := resultsNow_of_level (h.level_eq hl) (by decide)
  down {b c s} h he hk hb := by
    refine ⟨hb, ?_⟩
    cases he with
    | list _ _ hq => exact resultsNow_of_query hq
    | results => exact absurd rfl (Ledger.ne_of_current (l := c.ledger) (j := .search) rfl hk)
    | rows _ hc => exact resultsNow_of_level hc (by decide)
    | message _ _ hc => exact resultsNow_of_level hc (by decide)
    | thread _ hc => exact resultsNow_of_level hc (by decide)
  back {b crumb} _ ho hq _ _ hc hl he := by
    rw [View.of_outline View.level (fun _ => rfl) ho] at hl
    rw [hq] at he
    rw [hq, View.of_outline View.filter (fun _ => rfl) ho]
    exact hc hl he

end Browser
end MailBrowser
