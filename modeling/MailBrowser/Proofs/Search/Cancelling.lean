import MailBrowser.Proofs.Navigation.Sight

/-!
# Cancelling a search

A list is kept when its search line is opened, and shown again when the line is closed without a
query, whatever was searched for in between.

* `KeepsOpen`       a run in which the line stays open;
* `Held`            the list of `s` is kept behind the open line, and only the list may differ;
* `Held.press_eq`   where a key goes meanwhile;
* `Held.update`     no step that keeps the line open lets go of it;
* `Restored`        the list of `s` without a search;
* `cancel_restores` the line opened, anything that keeps it open, and the key that cancels it.
-/

namespace MailBrowser

/-- a list as it is kept behind a search -/
def View.snapshot (v : View) : ListSnapshot where
  messages := v.data.messages
  cursor := v.window.cursor
  scroll := v.window.scroll
  totals := v.totals

namespace Browser
open Text

def KeepsOpen (b : Browser) : List Event → Prop
  | [] => True
  | e :: es => (b.update e).1.search.active = true ∧ KeepsOpen (b.update e).1 es

instance decidableKeepsOpen : (b : Browser) → (es : List Event) → Decidable (KeepsOpen b es)
  | _, [] => inferInstanceAs (Decidable True)
  | b, e :: es =>
    have := decidableKeepsOpen (b.update e).1 es
    inferInstanceAs (Decidable ((b.update e).1.search.active = true ∧ KeepsOpen (b.update e).1 es))

/-- Of dialogs, only that of a batch that was asked for earlier can open over the line. -/
structure Held (s b : Browser) : Prop where
  level : b.view.level = .list
  active : b.search.active = true
  snapshot : b.search.snapshot = some s.view.snapshot
  data : { b.view.data with messages := s.view.data.messages } = s.view.data
  dialog : b.dialog = none ∨ ∃ staged, b.dialog = some (.deletion staged)

structure Restored (s b : Browser) : Prop where
  level : b.view.level = .list
  data : b.view.data = s.view.data
  window : b.view.window = s.view.window
  totals : b.view.totals = s.view.totals
  query : b.view.query = ""
  active : b.search.active = false
  loading : b.search.loading = false
  loadingMore : b.search.loadingMore = false
  total : b.search.total = 0
  offset : b.search.offset = 0
  snapshot : b.search.snapshot = none

variable {s b c : Browser}

/-- A key goes to the dialog of the batch or to the line, unless work swallows it or it quits. -/
theorem Held.press_eq (h : Held s b) (k : Key) : b.press k = b.quit ∨ b.press k = b.still ∨
    (∃ staged, b.press k = b.pressInDialog (.deletion staged) k) ∨
      b.press k = b.pressInSearch k := by
  unfold Browser.press
  split
  · exact .inl rfl
  · split
    · exact .inr (.inl rfl)
    · rcases h.dialog with hd | ⟨staged, hd⟩
      · rw [hd]
        dsimp only
        rw [if_pos h.active]
        exact .inr (.inr (.inr rfl))
      · rw [hd]
        exact .inr (.inr (.inl ⟨staged, rfl⟩))

/-- what a step has to leave alone -/
theorem Held.congr (h : Held s b) (hl : c.view.level = b.view.level)
    (ha : c.search.active = b.search.active) (hs : c.search.snapshot = b.search.snapshot)
    (hv : { c.view.data with messages := [] } = { b.view.data with messages := [] })
    (hd : c.dialog = b.dialog) : Held s c where
  level := hl.trans h.level
  active := ha.trans h.active
  snapshot := hs.trans h.snapshot
  data := by
    have hv := congrArg (fun d : Loaded => { d with messages := s.view.data.messages }) hv
    exact Eq.trans hv h.data
  dialog := by
    rw [hd]
    exact h.dialog

theorem Held.with_dialog (h : Held s b) {d : Option Dialog}
    (hd : d = none ∨ ∃ staged, d = some (.deletion staged)) : Held s { b with dialog := d } :=
  ⟨h.level, h.active, h.snapshot, h.data, hd⟩

/-! ## opening -/

/-- The key that opens the line gets to the list. -/
theorem press_slash (hb : b.Free) (hl : b.view.level = .list) : b.press (.char '/') = b.openSearch := by
  unfold press
  rw [if_neg (by decide), if_neg (by rw [hb.idle]; decide), hb.noDialog]
  dsimp only
  rw [if_neg (by rw [hb.noLine]; decide), hb.noFind]
  show b.pressInLevel (.char '/') = _
  unfold pressInLevel
  rw [hl]
  rfl

theorem openSearch_held (hb : b.Free) (hl : b.view.level = .list)
    (hq : b.view.query.isEmpty = true) (hw : b.loading = false) : Held b b.openSearch.1 := by
  have hs : b.openSearch = (b.withSearch
      { b.search with active := true, input := b.view.query, snapshot := some b.view.snapshot }, [])
      := by
    unfold openSearch
    rw [if_pos (by rw [hl]; rfl)]
    dsimp only
    rw [if_pos (by rw [hl, hq, hw]; rfl)]
    rfl
  rw [hs]
  exact ⟨hl, rfl, rfl, rfl, .inl hb.noDialog⟩

/-! ## while the line is open -/

theorem cancelSearch_closes (b : Browser) : b.cancelSearch.1.search.active = false := by
  unfold cancelSearch
  dsimp only
  split
  · unfold clearSearch
    dsimp only
    split <;> rfl
  · split
    · rfl
    · split <;> rfl

theorem commitSearch_closes (b : Browser) : b.commitSearch.1.search.active = false := by
  unfold commitSearch
  dsimp only
  split
  · exact cancelSearch_closes b
  · split
    · rfl
    · split <;> rfl
    · split <;> rfl
    · rfl

theorem Held.toggleMode (h : Held s b) : Held s b.toggleMode.1 := by
  unfold Browser.toggleMode
  rw [if_pos h.level]
  dsimp only
  split <;> exact h.congr rfl rfl rfl rfl rfl

/-- A tick searches the list, or shows the one that is kept, which stays kept. -/
theorem Held.applyQuery (h : Held s b) (query : String) : Held s (b.applyQuery query).1 := by
  have hl : (b.withQuery query).view.level = .list := h.level
  unfold Browser.applyQuery
  dsimp only
  rw [hl]
  dsimp only
  split
  · unfold clearSearch
    dsimp only
    split
    · exact h.congr rfl rfl rfl rfl rfl
    · exact h.congr rfl rfl rfl rfl rfl
  · exact h.congr rfl rfl rfl rfl rfl

theorem Held.ticked (h : Held s b) (query : String) (token : Nat) :
    Held s (b.ticked query token).1 := by
  unfold Browser.ticked
  split
  · exact h.applyQuery _
  · exact h

theorem Held.pressInSearch (h : Held s b) {k : Key}
    (ho : (b.pressInSearch k).1.search.active = true) : Held s (b.pressInSearch k).1 := by
  unfold Browser.pressInSearch at ho ⊢
  split at ho
  · rw [cancelSearch_closes] at ho; cases ho
  · rw [commitSearch_closes] at ho; cases ho
  · exact h.toggleMode
  all_goals exact h.congr rfl rfl rfl rfl rfl

theorem Held.pressInBatch (h : Held s b) (staged : StagedBatch) (k : Key) :
    Held s (b.pressInDialog (.deletion staged) k).1 := by
  show Held s (if isYes k then _ else if isNo k then _ else _ : Step).1
  split
  · exact ⟨h.level, h.active, h.snapshot, h.data, .inl rfl⟩
  · split
    · exact h.with_dialog (.inl rfl)
    · exact h.with_dialog (.inr ⟨staged, rfl⟩)

theorem Held.press (h : Held s b) {k : Key} (ho : (b.press k).1.search.active = true) :
    Held s (b.press k).1 := by
  rcases h.press_eq k with he | he | ⟨staged, he⟩ | he
  · rw [he]
    exact h.congr rfl rfl rfl rfl rfl
  · rw [he]
    exact h
  · rw [he]
    exact h.pressInBatch staged k
  · rw [he] at ho ⊢
    exact h.pressInSearch ho

/-- **As long as the line is open the list stays kept.** -/
theorem Held.update (h : Held s b) (e : Event) (ho : (b.update e).1.search.active = true) :
    Held s (b.update e).1 := by
  cases e with
  | key k => exact h.press ho
  | searchTick query token => exact h.ticked query token
  | resize height => exact h.congr rfl rfl rfl rfl rfl
  | rowsLoaded id r =>
    show Held s (b.rowsArrived id r)
    unfold rowsArrived
    rw [if_neg (by rw [h.level, Bool.and_eq_true]; exact fun hn => absurd hn.2 (by decide))]
    exact h
  | messagesLoaded id r =>
    show Held s (b.messagesArrived id r)
    unfold messagesArrived
    split
    · dsimp only
      split
      · exact h.congr rfl rfl rfl rfl rfl
      · cases r <;> exact h.congr rfl rfl rfl rfl rfl
    · exact h
  | threadLoaded id r =>
    show Held s (b.threadArrived id r)
    unfold threadArrived
    rw [if_neg (by rw [h.level, Bool.and_eq_true]; exact fun hn => absurd hn.2 (by decide))]
    exact h
  | detailLoaded id r =>
    show Held s (b.detailArrived id r)
    unfold detailArrived
    rw [if_neg (by rw [h.level, Bool.and_eq_true]; exact fun hn => absurd hn.2 (by decide))]
    exact h
  | searchLoaded id append r =>
    show Held s (b.searchArrived id append r)
    unfold searchArrived
    split
    · cases r <;> exact h.congr rfl rfl rfl rfl rfl
    · exact h
  | flashExpired generation =>
    show Held s (b.expireFlash generation)
    unfold expireFlash
    split <;> exact h.congr rfl rfl rfl rfl rfl
  | statsLoaded r => cases r <;> exact h.congr rfl rfl rfl rfl rfl
  | accountsLoaded r => cases r <;> exact h.congr rfl rfl rfl rfl rfl
  | manifestBuilt r =>
    show Held s (b.manifestBuilt r).1
    unfold manifestBuilt
    dsimp only
    split
    · exact ⟨h.level, h.active, h.snapshot, h.data, .inr ⟨_, rfl⟩⟩
    · exact h.congr rfl rfl rfl rfl rfl
    · exact h.congr rfl rfl rfl rfl rfl
  | manifestSaved r =>
    show Held s (b.manifestSaved r).1
    unfold manifestSaved
    dsimp only
    split <;> exact h.congr rfl rfl rfl rfl rfl
  | exportFinished r =>
    show Held s (b.exportFinished r).1
    unfold exportFinished
    dsimp only
    split <;> exact h.congr rfl rfl rfl rfl rfl

theorem Held.run (h : Held s b) {es : List Event} (ho : KeepsOpen b es) : Held s (b.run es).1 := by
  induction es generalizing b with
  | nil => exact h
  | cons e es ih => exact ih (h.update e ho.1) ho.2

/-! ## closing -/

theorem Held.cancelSearch (h : Held s b) :
    Restored s b.cancelSearch.1 ∧ b.cancelSearch.2 = [] := by
  let v := showSnapshot { b.view with query := "" } s.view.snapshot
  let search : SearchSession := { b.search with
    active := false, input := "", token := b.search.token + 1, loading := false
    loadingMore := false, total := 0, offset := 0, snapshot := none }
  have hc : b.cancelSearch = ({ b with view := v, search }, []) := by
    unfold Browser.cancelSearch
    dsimp only
    rw [if_pos (by
      rw [Bool.and_eq_true]
      refine ⟨by rw [decide_eq_true_eq]; exact h.level, ?_⟩
      show b.search.snapshot.isSome = true
      rw [h.snapshot]
      rfl)]
    unfold clearSearch
    dsimp only
    split
    · rename_i t ht
      have ht : b.search.snapshot = some t := ht
      rw [h.snapshot, Option.some.injEq] at ht
      rw [← ht]
      rfl
    · rename_i hn
      have hn : b.search.snapshot = none := hn
      rw [h.snapshot] at hn
      cases hn
  rw [hc]
  exact ⟨⟨h.level, h.data, rfl, rfl, rfl, rfl, rfl, rfl, rfl, rfl, rfl⟩, rfl⟩

/-- A key that closes the line without a text cancels the search. -/
theorem Held.press_cancels (h : Held s b) {k : Key}
    (hk : k = .escape ∨ (k = .enter ∧ (trim b.search.input).isEmpty = true))
    (hc : (b.press k).1.search.active = false) : b.press k = b.cancelSearch := by
  have still_open {t : Step} {P : Prop} (he : b.press k = t)
      (ht : t.1.search.active = b.search.active) : P := by
    rw [he, ht, h.active] at hc
    cases hc
  rcases h.press_eq k with he | he | ⟨staged, he⟩ | he
  · exact still_open he rfl
  · exact still_open he rfl
  · refine still_open he ?_
    rcases hk with rfl | ⟨rfl, -⟩ <;> rfl
  · rw [he]
    rcases hk with rfl | ⟨rfl, hq⟩
    · rfl
    · exact if_pos hq

/-- **A list that is searched, however, and whose search is cancelled is what it was, nothing is
asked for, and no page of the search that comes later is shown without a query.** -/
theorem cancel_restores (hs : s.Reachable) (hl : s.view.level = .list)
    (hq : s.view.query.isEmpty = true) (ha : s.search.active = false) (hd : s.dialog = none)
    (hi : s.busy = none) (hw : s.loading = false) {es : List Event}
    (ho : KeepsOpen (s.press (.char '/')).1 es) {k : Key} :
    let b := ((s.press (.char '/')).1.run es).1
    let r := b.press k
    k = .escape ∨ (k = .enter ∧ (trim b.search.input).isEmpty = true) →
      r.1.search.active = false →
      Restored s r.1 ∧ r.2 = [] ∧
        ∀ fs id append result, (r.1.run fs).1.view.query.isEmpty = true →
          (r.1.run fs).1.update (.searchLoaded id append result) = (r.1.run fs).1.still := by
  intro b r hk hc
  have hf : s.Free := ⟨hi, hd, ha, hs.findShut.1 (by show s.view.level ≠ _; rw [hl]; decide)⟩
  have hb : Held s b := by
    refine Held.run ?_ ho
    rw [press_slash hf hl]
    exact openSearch_held hf hl hq hw
  have hr : r = b.cancelSearch := hb.press_cancels hk hc
  rw [hr]
  refine ⟨hb.cancelSearch.1, hb.cancelSearch.2, fun fs id append result hn => ?_⟩
  refine congrArg still ?_
  unfold searchArrived
  rw [if_neg (by rw [hn, Bool.and_eq_true]; exact fun h => absurd h.2 (by decide))]

/-- Two letters are typed, found, searched for in bodies and erased again. -/
theorem cancel_restores_what_was_listed :
    let one : Summary := { id := 1, conversation := 7 }
    let two : Summary := { id := 2, conversation := 8 }
    let s := (session {} [.rowsLoaded 1 (.ok [{ key := "alice@example.com" }]), .key .enter,
      .messagesLoaded 1 (.ok [one, two]), .key .down]).1
    let es : List Event := [.key (.char 'o'), .searchTick "o" 2,
      .searchLoaded 1 false (.ok { messages := [two], total := 1 }), .key (.char 'n'), .key .tab,
      .searchLoaded 2 false (.error (.io "disk")), .key .backspace, .key .backspace]
    Restored s (((s.press (.char '/')).1.run es).1.press .enter).1 := by
  intro one two s es
  refine (@cancel_restores s ⟨_, _, rfl⟩ ?_ ?_ ?_ ?_ ?_ ?_ es ?_ .enter (.inr ⟨rfl, ?_⟩) ?_).1
  all_goals decide +kernel

end Browser
end MailBrowser
