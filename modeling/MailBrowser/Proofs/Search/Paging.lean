import MailBrowser.Archive.Questions
import MailBrowser.Browser.Session
import MailBrowser.Proofs.Browser.KeyStep

/-!
# Paging through a search

The results of a search come in pages, and the cursor asks for the next one: a fast search when the
cursor is near the last result of those that are there, a deep one when a page key finds it there.

* `Key.isMotion`         the keys that move the cursor;
* `Archive.allFound`     all results of a search, without pages, and `runSearch_engine` one page;
* `Browser.goesOn`       there are more results than are on screen, as far as the browser can tell;
* `Browser.Moved`        what these keys do to a list: its window moves, and perhaps a page is asked
                         for;
* `Browser.Paged`        some pages of the results are on screen, and nothing else;
* `Browser.leaf`         one key after the other, each with the pages it asks for;
* `Browser.leaf_complete`   the pages make up the results, and nothing is asked for after the last.
-/

namespace MailBrowser

def Key.isMotion : Key → Bool
  | .char 'j' | .down | .char 'k' | .up | .pageDown | .ctrl 'd' | .pageUp | .ctrl 'u' => true
  | .homeKey | .endKey => true
  | _ => false

/-! ## pages -/

section
variable {α : Type}

theorem page_of_pos {limit : Nat} (h : 0 < limit) (xs : List α) (offset : Nat) :
    page xs limit offset = (xs.drop offset).take limit := if_neg (by omega)

/-- After `n` pages comes the next one. -/
theorem take_append_page {limit : Nat} (h : 0 < limit) (xs : List α) (n : Nat) :
    xs.take (n * limit) ++ page xs limit (n * limit) = xs.take ((n + 1) * limit) := by
  rw [page_of_pos h, Nat.succ_mul, List.take_add]

/-- The next page is full if there is as much. -/
theorem le_length_page_iff {limit : Nat} (h : 0 < limit) (xs : List α) {n : Nat}
    (hn : n * limit ≤ xs.length) :
    limit ≤ (page xs limit (n * limit)).length ↔ (n + 1) * limit ≤ xs.length := by
  rw [page_of_pos h, List.length_take, List.length_drop, Nat.succ_mul]
  omega

end

namespace Archive

/-- A request is for a part of this. -/
def allFound (a : Archive) (r : SearchRequest) : List Summary :=
  match r.mode with
  | .fast => a.searchFast r.query r.filter 0 0
  | .deep => a.search r.query 0 0

end Archive

/-- what the total of a search says that has brought some pages, full or not -/
def SearchMode.total (mode : SearchMode) (found loaded : Nat) (full : Bool) : Int :=
  match mode with
  | .fast => found
  | .deep => if full then -1 else loaded

theorem runSearch_engine (a : Archive) (r : SearchRequest) :
    ∃ p, runSearch a.engine r = .ok p ∧ p.messages = page (a.allFound r) r.limit r.offset ∧
      p.total = r.mode.total (a.allFound r).length (r.offset + p.messages.length)
        (decide (r.limit ≤ p.messages.length)) := by
  obtain ⟨query, mode, filter, limit, offset, append⟩ := r
  cases mode with
  | fast => exact ⟨_, rfl, rfl, rfl⟩
  | deep =>
    refine ⟨_, rfl, rfl, ?_⟩
    simp only [SearchMode.total, decide_eq_true_eq]

namespace Browser

/-- there are more results than are on screen, as far as the browser can tell -/
def goesOn (b : Browser) : Prop :=
  match b.search.mode with
  | .fast => (b.view.data.messages.length : Int) < b.search.total
  | .deep => b.search.total = -1 ∧ 0 < b.view.data.messages.length

def atWindow (b : Browser) (window : Window) : Browser := { b with view := { b.view with window } }

/-- what a cursor key does to a list -/
inductive Moved (b : Browser) : Step → Prop where
  | still (window : Window) : Moved b (b.atWindow window, [])
  | turned (window : Window) (h : b.goesOn) :
      Moved b ((b.atWindow window).searchFrom b.search.offset true)

variable {a : Archive} {b : Browser} {k : Key} {s : Step} {found : List Summary} {size n : Nat}

/-! ## cursor keys -/

theorem loadMore_moved (window : Window) : Moved b (b.atWindow window).loadMore := by
  unfold loadMore
  dsimp only
  split
  · rename_i h
    simp only [canLoadMore, Bool.and_eq_true, decide_eq_true_eq] at h
    refine .turned window ?_
    have hm : b.search.mode = .fast := h.1.1.1.1.2
    rw [goesOn, hm]
    exact h.1.2
  · exact .still window

theorem loadMoreDeep_moved (window : Window) : Moved b (b.atWindow window).loadMoreDeep := by
  unfold loadMoreDeep
  dsimp only
  split
  · rename_i h
    simp only [canLoadMore, Bool.and_eq_true, decide_eq_true_eq] at h
    refine .turned window ?_
    have hm : b.search.mode = .deep := h.1.1.1.1.2
    rw [goesOn, hm]
    exact ⟨h.1.1.2, h.1.2⟩
  · exact .still window

section
variable (hl : b.view.level = .list)
include hl

theorem moveCursor_list (delta : Int) : ∃ window,
    b.moveCursor delta = (b.atWindow window).loadMore := by
  unfold moveCursor
  rw [hl]
  exact ⟨_, rfl⟩

theorem moveCursor_moved (delta : Int) : Moved b (b.moveCursor delta) := by
  obtain ⟨window, h⟩ := moveCursor_list hl delta
  rw [h]
  exact loadMore_moved window

theorem toStart_moved : Moved b b.toStart := by
  unfold toStart
  rw [hl]
  exact .still _

theorem toEnd_list : ∃ window, b.toEnd = (b.atWindow window).loadMore ∧
    b.view.data.messages.length ≤ window.cursor + 1 := by
  unfold toEnd
  rw [hl]
  refine ⟨_, rfl, ?_⟩
  show _ ≤ b.view.listLength - 1 + 1
  unfold View.listLength
  rw [hl]
  dsimp only
  omega

theorem toEnd_moved : Moved b b.toEnd := by
  obtain ⟨window, h, -⟩ := toEnd_list hl
  rw [h]
  exact loadMore_moved window

theorem pageDown_moved (rows : Nat) : Moved b (b.pageDown rows) := by
  unfold pageDown
  split
  · exact loadMoreDeep_moved b.view.window
  · have hm := moveCursor_moved hl rows
    dsimp only
    generalize b.moveCursor rows = s at hm
    cases hm with
    | still window => exact loadMoreDeep_moved window
    | turned window h => exact .turned window h

theorem pressInMotion_moved (hk : k.isMotion = true) :
    ∃ s, b.pressInMotion? k = some s ∧ Moved b s := by
  unfold Key.isMotion at hk
  split at hk
  · exact ⟨_, rfl, moveCursor_moved hl 1⟩
  · exact ⟨_, rfl, moveCursor_moved hl 1⟩
  · exact ⟨_, rfl, moveCursor_moved hl (-1)⟩
  · exact ⟨_, rfl, moveCursor_moved hl (-1)⟩
  · exact ⟨_, rfl, pageDown_moved hl _⟩
  · exact ⟨_, rfl, pageDown_moved hl _⟩
  · exact ⟨_, rfl, moveCursor_moved hl _⟩
  · exact ⟨_, rfl, moveCursor_moved hl _⟩
  · exact ⟨_, rfl, toStart_moved hl⟩
  · exact ⟨_, rfl, toEnd_moved hl⟩
  · cases hk

end

theorem press_motion (hb : b.Free) (hs : b.pressInMotion? k = some s) : b.press k = s := by
  have hc : k ≠ .ctrl 'c' := by
    rintro rfl
    cases hs
  unfold press pressOnScreen
  rw [if_neg hc, hb.idle, hb.noDialog, hb.noFind, hs]
  dsimp only [Option.isSome_none]
  rw [if_neg (by decide), hb.noLine]
  rfl

theorem press_moved (hb : b.Free) (hl : b.view.level = .list) (hk : k.isMotion = true) :
    Moved b (b.press k) := by
  obtain ⟨s, hs, hm⟩ := pressInMotion_moved hl hk
  rw [press_motion hb hs]
  exact hm

/-! ## pages on screen -/

/-- the browser after the outcome of a search that it asked for -/
def answered (a : Archive) (b : Browser) : Effect → Browser
  | .search id r => (b.update (.searchLoaded id r.append (runSearch a.engine r))).1
  | _ => b

/-- The first page of the results and `n` more are on screen, and no page is on its way. -/
structure Paged (a : Archive) (found : List Summary) (size n : Nat) (b : Browser) : Prop where
  free : b.Free
  level : b.view.level = .list
  query : b.view.query.isEmpty = false
  size_eq : b.tuning.searchPageSize = size
  pos : 0 < size
  within : n * size ≤ found.length
  sought : a.allFound (b.searchRequest 0 false) = found
  idle : b.search.loading = false ∧ b.search.loadingMore = false
  messages : b.view.data.messages = found.take ((n + 1) * size)
  offset : b.search.offset = b.view.data.messages.length
  total : b.search.total = b.search.mode.total found.length b.view.data.messages.length
    (decide ((n + 1) * size ≤ found.length))

theorem Paged.atWindow (h : Paged a found size n b) (window : Window) :
    Paged a found size n (b.atWindow window) :=
  ⟨⟨h.free.idle, h.free.noDialog, h.free.noLine, h.free.noFind⟩, h.level, h.query,
    h.size_eq, h.pos, h.within, h.sought, h.idle, h.messages, h.offset, h.total⟩

/-- A page counts if its number is the last, while a search is on screen. -/
theorem searchArrived_current (hl : b.view.level = .list) (hq : b.view.query.isEmpty = false)
    (append : Bool) (p : SearchPage) :
    b.searchArrived (b.ledger.current .search) append (.ok p) =
      { b with
        error := none
        view := showPage b.view p append
        search := { b.search with
          loading := false
          loadingMore := false
          offset := (showPage b.view p append).data.messages.length
          total := p.total } } := by
  unfold searchArrived
  rw [if_pos (by rw [hl, hq]; simp [Ledger.isCurrent])]

/-- The page after `n` pages, which are kept, makes one page more. -/
theorem paged_of_arrived (hb : b.Free) (hl : b.view.level = .list)
    (hq : b.view.query.isEmpty = false) (hs : b.tuning.searchPageSize = size) (hpos : 0 < size)
    (hf : a.allFound (b.searchRequest 0 false) = found) (hn : n * size ≤ found.length)
    (append : Bool) (hk : (if append then b.view.data.messages else []) = found.take (n * size)) :
    Paged a found size n (b.searchArrived (b.ledger.current .search) append
      (runSearch a.engine (b.searchRequest (n * size) append))) := by
  obtain ⟨p, hp, hm, ht⟩ := runSearch_engine a (b.searchRequest (n * size) append)
  change p.messages = page (a.allFound (b.searchRequest 0 false)) b.tuning.searchPageSize _ at hm
  change p.total = b.search.mode.total (a.allFound (b.searchRequest 0 false)).length
    (n * size + p.messages.length) (decide (b.tuning.searchPageSize ≤ p.messages.length)) at ht
  rw [hf, hs] at hm ht
  have hall : found.take (n * size) ++ p.messages = found.take ((n + 1) * size) :=
    hm ▸ take_append_page hpos found n
  have hfull : size ≤ p.messages.length ↔ (n + 1) * size ≤ found.length :=
    hm ▸ le_length_page_iff hpos found hn
  have hshown : (showPage b.view p append).data.messages = found.take ((n + 1) * size) := by
    rw [← hall, ← hk]
    cases append <;> rfl
  have hlength : n * size + p.messages.length =
      (showPage b.view p append).data.messages.length := by
    rw [hshown, ← hall, List.length_append, List.length_take_of_le hn]
  rw [hlength, decide_eq_decide.2 hfull] at ht
  rw [hp, searchArrived_current hl hq]
  exact ⟨⟨hb.idle, hb.noDialog, hb.noLine, hb.noFind⟩, hl, hq, hs, hpos, hn, hf, ⟨rfl, rfl⟩,
    hshown, rfl, ht⟩

/-- the browser with the first page of its search, as an archive has it -/
def withFirstPage (b : Browser) (a : Archive) : Browser :=
  b.answered a (.search (b.ledger.current .search) (b.searchRequest 0 false))

theorem withFirstPage_paged (hb : b.Free) (hl : b.view.level = .list)
    (hq : b.view.query.isEmpty = false) (hs : b.tuning.searchPageSize = size) (hpos : 0 < size) :
    Paged a (a.allFound (b.searchRequest 0 false)) size 0 (b.withFirstPage a) := by
  have h := paged_of_arrived (a := a) (n := 0) hb hl hq hs hpos rfl
    (by rw [Nat.zero_mul]; exact Nat.zero_le _) false
    (by rw [Nat.zero_mul, List.take_zero]; rfl)
  rw [Nat.zero_mul] at h
  exact h

namespace Paged

variable (h : Paged a found size n b)
include h

/-- More is to come of a fast search while results are missing, and of a deep one while its last
page was full. -/
theorem goesOn_iff : b.goesOn ↔
    match b.search.mode with
    | .fast => (n + 1) * size < found.length
    | .deep => (n + 1) * size ≤ found.length := by
  have ht := h.total
  have hm := congrArg List.length h.messages
  have hpos : 0 < (n + 1) * size := Nat.mul_pos (Nat.succ_pos n) h.pos
  rw [List.length_take] at hm
  unfold goesOn
  cases hmode : b.search.mode with
  | fast =>
    rw [hmode] at ht
    dsimp only [SearchMode.total] at ht ⊢
    omega
  | deep =>
    rw [hmode] at ht
    simp only [SearchMode.total, decide_eq_true_eq] at ht ⊢
    split at ht <;> omega

theorem within_of_goesOn (hg : b.goesOn) : (n + 1) * size ≤ found.length := by
  have hg := h.goesOn_iff.1 hg
  split at hg <;> omega

theorem complete_of_ended (hg : ¬ b.goesOn) :
    b.view.data.messages = found ∧ b.search.total = found.length := by
  rw [h.goesOn_iff] at hg
  have hle : found.length ≤ (n + 1) * size := by split at hg <;> omega
  have hall : b.view.data.messages = found := by
    rw [h.messages]
    exact List.take_of_length_le hle
  refine ⟨hall, ?_⟩
  rw [h.total, hall]
  cases hmode : b.search.mode with
  | fast => rfl
  | deep =>
    rw [hmode] at hg
    exact if_neg (by simpa using hg)

/-- The page that is asked for next comes after those that are there. -/
theorem turn (hg : b.goesOn) :
    ∃ id r, (b.searchFrom b.search.offset true).2 = [.search id r] ∧
      Paged a found size (n + 1)
        ((b.searchFrom b.search.offset true).1.answered a (.search id r)) := by
  have hw := h.within_of_goesOn hg
  have ho : b.search.offset = (n + 1) * size := by
    rw [h.offset, h.messages, List.length_take_of_le hw]
  refine ⟨_, _, rfl, ?_⟩
  have hp := paged_of_arrived (b := (b.searchFrom b.search.offset true).1)
    ⟨h.free.idle, h.free.noDialog, h.free.noLine, h.free.noFind⟩ h.level h.query h.size_eq h.pos
    h.sought hw true h.messages
  rw [ho] at hp ⊢
  exact hp

end Paged

/-! ## one key after the other -/

/-- keys, each with the outcomes of what it asks for before the next -/
def leaf (a : Archive) (b : Browser) : List Key → Step
  | [] => b.still
  | k :: ks =>
    let s := b.press k
    let rest := leaf a (s.2.foldl (answered a) s.1) ks
    (rest.1, s.2 ++ rest.2)

theorem Paged.moved (h : Paged a found size n b) (hm : Moved b s) :
    Paged a found size (n + s.2.length) (s.2.foldl (answered a) s.1) ∧
      ∀ x ∈ s.2, ∃ id r, x = .search id r := by
  cases hm with
  | still window => exact ⟨h.atWindow window, fun x hx => nomatch hx⟩
  | turned window hg =>
    obtain ⟨id, r, hs, hp⟩ := (h.atWindow window).turn hg
    rw [show b.search.offset = (b.atWindow window).search.offset from rfl, hs]
    exact ⟨hp, fun x hx => ⟨id, r, List.mem_singleton.1 hx⟩⟩

theorem Paged.leaf (h : Paged a found size n b) {ks : List Key} (hk : ∀ k ∈ ks, k.isMotion = true) :
    Paged a found size (n + (b.leaf a ks).2.length) (b.leaf a ks).1 ∧
      ∀ x ∈ (b.leaf a ks).2, ∃ id r, x = .search id r := by
  induction ks generalizing n b with
  | nil => exact ⟨h, fun x hx => nomatch hx⟩
  | cons k ks ih =>
    obtain ⟨hp, hx⟩ := h.moved (press_moved h.free h.level (hk k List.mem_cons_self))
    obtain ⟨hrest, hxs⟩ := ih hp fun j hj => hk j (List.mem_cons_of_mem _ hj)
    refine ⟨?_, fun x hm => (List.mem_append.1 hm).elim (hx x) (hxs x)⟩
    unfold Browser.leaf
    dsimp only
    rw [List.length_append, ← Nat.add_assoc]
    exact hrest

/-! ## the last page -/

theorem loadMore_still (hm : b.search.mode = .deep) : b.loadMore = b.still := by
  unfold loadMore canLoadMore
  refine if_neg ?_
  simp [hm]

namespace Paged

variable (h : Paged a found size n b)
include h

theorem ready : b.canLoadMore b.search.mode = true := by
  simp [canLoadMore, h.level, h.query, h.idle.2]

theorem loadMore_eq (hm : b.search.mode = .fast) (hg : b.goesOn)
    (hc : b.view.data.messages.length ≤ b.view.window.cursor + 1) :
    b.loadMore = b.searchFrom b.search.offset true := by
  have hload := hm ▸ h.ready
  have hg : (b.view.data.messages.length : Int) < b.search.total := by
    unfold goesOn at hg
    rwa [hm] at hg
  unfold loadMore
  refine if_pos ?_
  rw [hload, h.idle.1, decide_eq_true hg, decide_eq_true (by unfold nearEnd; omega)]
  rfl

theorem loadMoreDeep_eq (hm : b.search.mode = .deep) (hg : b.goesOn)
    (hc : b.view.data.messages.length ≤ b.view.window.cursor + 1) :
    b.loadMoreDeep = b.searchFrom b.search.offset true := by
  have hload := hm ▸ h.ready
  have hg : b.search.total = -1 ∧ 0 < b.view.data.messages.length := by
    unfold goesOn at hg
    rwa [hm] at hg
  unfold loadMoreDeep
  refine if_pos ?_
  rw [hload, decide_eq_true hg.1, decide_eq_true hg.2, decide_eq_true hc]
  rfl

/-- At the last result the end key asks for more of a fast search, and a page key for more of a deep
one. -/
theorem ended_of_silent (he : (b.press .endKey).2 = [])
    (hd : ((b.press .endKey).1.press .pageDown).2 = []) : ¬ b.goesOn := by
  intro hg
  obtain ⟨window, hend, hc⟩ := toEnd_list h.level
  have hp : Paged a found size n (b.atWindow window) := h.atWindow window
  rw [press_motion h.free rfl, hend] at he hd
  cases hm : b.search.mode with
  | fast =>
    rw [hp.loadMore_eq hm hg hc] at he
    cases he
  | deep =>
    have hrow : (b.atWindow window).view.level = .list ∧
        (b.atWindow window).view.listLength ≤ (b.atWindow window).view.window.cursor + 1 := by
      refine ⟨h.level, ?_⟩
      unfold View.listLength
      rw [hp.level]
      exact hc
    rw [loadMore_still (b := b.atWindow window) hm] at hd
    change ((b.atWindow window).press .pageDown).2 = [] at hd
    rw [press_motion hp.free rfl, pageDown, if_pos hrow, hp.loadMoreDeep_eq hm hg hc] at hd
    cases hd

end Paged

/-- **Paging loses and repeats nothing.**  From the first page of a search on, whatever cursor keys
follow, the list is the beginning of all results, one page longer for each page that is asked for,
and no more pages are asked for than fit.  Once neither the end key nor a page key after it asks for
one, the list is complete and its length is known. -/
theorem leaf_complete (a : Archive) (b : Browser) (hb : b.Free) (hl : b.view.level = .list)
    (hq : b.view.query.isEmpty = false) (hs : 1 ≤ b.tuning.searchPageSize) (ks : List Key)
    (hk : ∀ k ∈ ks, k.isMotion = true) :
    let found := a.allFound (b.searchRequest 0 false)
    let s := (b.withFirstPage a).leaf a ks
    s.1.view.data.messages <+: found ∧
      s.1.search.offset = s.1.view.data.messages.length ∧
      s.1.view.data.messages.length =
        min ((s.2.length + 1) * b.tuning.searchPageSize) found.length ∧
      (∀ x ∈ s.2, ∃ id r, x = .search id r) ∧
      s.2.length * b.tuning.searchPageSize ≤ found.length ∧
      ((s.1.press .endKey).2 = [] → ((s.1.press .endKey).1.press .pageDown).2 = [] →
        s.1.view.data.messages = found ∧ s.1.search.total = found.length) := by
  intro found s
  obtain ⟨hp, hx⟩ := (withFirstPage_paged (a := a) hb hl hq rfl hs).leaf hk
  rw [Nat.zero_add] at hp
  refine ⟨?_, hp.offset, ?_, hx, hp.within, fun he hd => ?_⟩
  · rw [hp.messages]
    exact List.take_prefix _ _
  · rw [hp.messages, List.length_take]
  · exact hp.complete_of_ended (hp.ended_of_silent he hd)

/-! ### three results, one on a page -/

def order (n : Nat) : Message where
  id := n
  account := 1
  providerId := ""
  subject := if n % 2 = 0 then "more cups" else "more tea"
  sender := { email := "bob@example.com", name := "Bob" }
  sentAt := .epoch

def orders : Archive where
  accounts := [{ id := 1, identifier := "me@example.com" }]
  messages := [order 1, order 2, order 3, order 4, order 5]

/-- The list of all messages is opened, and a search of it committed. -/
def seekTea : List Event :=
  [.key (.char 'a'), .messagesLoaded 1 (.ok []), .key (.char '/'), .key (.char 't'),
    .key (.char 'e'), .key (.char 'a'), .key .enter]

/-- The search that was committed goes on from page to page until the last. -/
theorem leaf_complete_orders :
    let b := (session { searchPageSize := 1 } seekTea).1
    let ks : List Key := [.endKey, .char 'k', .endKey]
    (session { searchPageSize := 1 } seekTea).2.getLast? =
        some (.search (b.ledger.current .search) (b.searchRequest 0 false)) ∧
      ((b.withFirstPage orders).leaf orders ks).2.length = 2 ∧
      ((b.withFirstPage orders).leaf orders ks).1.search.total = 3 ∧
      ((b.withFirstPage orders).leaf orders ks).1.view.data.messages.map Summary.id =
        [1, 3, 5] := by
  intro b ks
  have hfound : (orders.allFound (b.searchRequest 0 false)).map Summary.id = [1, 3, 5] := by
    decide +kernel
  have hb : b.Free :=
    ⟨by decide +kernel, by decide +kernel, by decide +kernel, by decide +kernel⟩
  obtain ⟨-, -, -, -, -, h⟩ := leaf_complete orders b hb (by decide +kernel) (by decide +kernel)
    (by decide +kernel) ks (by decide)
  obtain ⟨hm, ht⟩ := h (by decide +kernel) (by decide +kernel)
  refine ⟨by decide +kernel, by decide +kernel, ?_, by rw [hm, hfound]⟩
  rw [ht, ← List.length_map Summary.id, hfound]
  rfl

end Browser
end MailBrowser
