import MailBrowser.Proofs.Requests.Stale

/-!
# Failures

Whatever fails, an answer of the engine or a job, nothing on screen or behind it is lost.

* `Event.fault?`    what a failure is put down to;
* `lasting`         a browser but for its flags and its notices;
* `concerns`        something is there that waits for an outcome;
* `Spared`          a step that only takes flags back, and reports a failure that is of concern;
* `update_spared`   every failure is such a step, whatever the view it comes to;
* `run_faults`      failures one after the other leave what lasts, and ask for timers alone;
* `failure_loses_nothing`   the step for a request that still counts and for one that does not.
-/

namespace MailBrowser

/-- what a failure is put down to, `none` for an event that is no failure -/
def Event.fault? : Event → Option String
  | .rowsLoaded _ (.error e) | .messagesLoaded _ (.error e) | .threadLoaded _ (.error e)
  | .detailLoaded _ (.error e) | .searchLoaded _ _ (.error e)
  | .statsLoaded (.error e) | .accountsLoaded (.error e) => some e.message
  | .manifestBuilt (.error .nothingSelected) => some Browser.nothingMarked
  | .manifestBuilt (.error e) | .manifestSaved (.error e) => some ("Staging failed: " ++ e.message)
  | .exportFinished (.error e) => some ("Export failed: " ++ e.message)
  | _ => none

namespace Browser

/-- all of a browser but its flags and its notices -/
def lasting (b : Browser) : Browser :=
  { b with
    search := { b.search with loading := false, loadingMore := false }
    loading := false
    busy := none
    error := none
    flash := none
    flashGeneration := 0 }

/-- A job and the accounts are always of concern, the totals of the header never. -/
def concerns (b : Browser) : Event → Bool
  | .rowsLoaded id _ => b.ledger.isCurrent .rows id && b.view.level.isGrouped
  | .messagesLoaded id _ =>
    b.ledger.isCurrent .messages id && b.view.level = .list && b.view.query.isEmpty
  | .threadLoaded id _ => b.ledger.isCurrent .messages id && b.view.level = .thread
  | .detailLoaded id _ => b.ledger.isCurrent .detail id && b.view.level = .reading
  | .searchLoaded id _ _ =>
    b.ledger.isCurrent .search id && b.view.level = .list && !b.view.query.isEmpty
  | .accountsLoaded _ | .manifestBuilt _ | .manifestSaved _ | .exportFinished _ => true
  | _ => false

/-- A step that keeps what lasts, takes flags back at most, and reports the failure if it is of
concern. -/
structure Spared (b : Browser) (e : Event) (text : String) (s : Step) : Prop where
  lasting : s.1.lasting = b.lasting
  loading : s.1.loading = b.loading ∨ s.1.loading = false
  searching : s.1.search.loading = b.search.loading ∨ s.1.search.loading = false
  paging : s.1.search.loadingMore = b.search.loadingMore ∨ s.1.search.loadingMore = false
  busy : s.1.busy = b.busy ∨ s.1.busy = none
  error : s.1.error = b.error ∨ s.1.error = some text
  notice : (s.1.flash = b.flash ∧ s.1.flashGeneration = b.flashGeneration ∧ s.2 = []) ∨
    (s.1.flash = some text ∧ s.1.flashGeneration = b.flashGeneration + 1 ∧
      s.2 = [.expireFlash b.tuning.flash (b.flashGeneration + 1)])
  told : b.concerns e = true → s.1.error = some text ∨ s.1.flash = some text

variable {b : Browser} {e : Event} {text : String}

theorem spared_still (text : String) (h : b.concerns e ≠ true) : Spared b e text b.still :=
  ⟨rfl, .inl rfl, .inl rfl, .inl rfl, .inl rfl, .inl rfl, .inl ⟨rfl, rfl, rfl⟩,
    fun hc => absurd hc h⟩

/-- a job that has failed -/
theorem spared_notify (b : Browser) (e : Event) (text : String) :
    Spared b e text ({ b with busy := none }.notify text) :=
  ⟨rfl, .inl rfl, .inl rfl, .inl rfl, .inr rfl, .inl rfl, .inr ⟨rfl, rfl, rfl⟩, fun _ => .inr rfl⟩

/-- a load that has failed -/
theorem spared_loading (b : Browser) (e : Event) (q : QueryError) :
    Spared b e q.message ({ b with loading := false }.withError q).still :=
  ⟨rfl, .inr rfl, .inl rfl, .inl rfl, .inl rfl, .inr rfl, .inl ⟨rfl, rfl, rfl⟩, fun _ => .inl rfl⟩

theorem update_spared (h : e.fault? = some text) : Spared b e text (b.update e) := by
  cases e with
  | rowsLoaded id r =>
    cases r with
    | ok rows => cases h
    | error q =>
      cases h
      show Spared b _ _ (b.rowsArrived id (.error q)).still
      unfold rowsArrived
      split
      · exact spared_loading b _ q
      · exact spared_still _ ‹_›
  | messagesLoaded id r =>
    cases r with
    | ok messages => cases h
    | error q =>
      cases h
      show Spared b _ _ (b.messagesArrived id (.error q)).still
      unfold messagesArrived
      split
      · dsimp only
        split
        · rename_i hq
          -- a list that fails while a search holds is not told of
          refine ⟨rfl, .inr rfl, .inl rfl, .inl rfl, .inl rfl, .inl rfl, .inl ⟨rfl, rfl, rfl⟩,
            fun hc => ?_⟩
          unfold concerns at hc
          rw [Bool.and_eq_true] at hc
          rw [hc.2] at hq
          cases hq
        · exact spared_loading b _ q
      · rename_i hg
        refine spared_still _ fun hc => hg ?_
        unfold concerns at hc
        rw [Bool.and_eq_true] at hc
        exact hc.1
  | threadLoaded id r =>
    cases r with
    | ok messages => cases h
    | error q =>
      cases h
      show Spared b _ _ (b.threadArrived id (.error q)).still
      unfold threadArrived
      split
      · exact spared_loading b _ q
      · exact spared_still _ ‹_›
  | detailLoaded id r =>
    cases r with
    | ok detail => cases h
    | error q =>
      cases h
      show Spared b _ _ (b.detailArrived id (.error q)).still
      unfold detailArrived
      split
      · exact spared_loading b _ q
      · exact spared_still _ ‹_›
  | searchLoaded id append r =>
    cases r with
    | ok page => cases h
    | error q =>
      cases h
      show Spared b _ _ (b.searchArrived id append (.error q)).still
      unfold searchArrived
      split
      · exact ⟨rfl, .inl rfl, .inr rfl, .inr rfl, .inl rfl, .inr rfl, .inl ⟨rfl, rfl, rfl⟩,
          fun _ => .inl rfl⟩
      · exact spared_still _ ‹_›
  | statsLoaded r =>
    cases r with
    | ok stats => cases h
    | error q => exact spared_still _ Bool.false_ne_true
  | accountsLoaded r =>
    cases r with
    | ok accounts => cases h
    | error q =>
      cases h
      exact ⟨rfl, .inl rfl, .inl rfl, .inl rfl, .inl rfl, .inr rfl, .inl ⟨rfl, rfl, rfl⟩,
        fun _ => .inl rfl⟩
  | manifestBuilt r =>
    cases r with
    | ok staged => cases h
    | error q => cases q <;> cases h <;> exact spared_notify b _ _
  | manifestSaved r =>
    cases r with
    | ok saved => cases h
    | error q => cases h; exact spared_notify b _ _
  | exportFinished r =>
    cases r with
    | ok report => cases h
    | error q => cases h; exact spared_notify b _ _
  | _ => cases h

/-- However much fails, what lasts is there afterwards. -/
theorem run_faults {es : List Event} (h : ∀ e ∈ es, e.fault?.isSome = true) :
    (b.run es).1.lasting = b.lasting ∧
      ∀ x ∈ (b.run es).2, ∃ g, x = .expireFlash b.tuning.flash g := by
  induction es generalizing b with
  | nil => exact ⟨rfl, by simp [run_nil]⟩
  | cons e es ih =>
    obtain ⟨he, hes⟩ := List.forall_mem_cons.1 h
    obtain ⟨text, ht⟩ := Option.isSome_iff_exists.1 he
    have hs := update_spared (b := b) ht
    have htuning : (b.update e).1.tuning = b.tuning := (congrArg Browser.tuning hs.lasting :)
    obtain ⟨hl, hx⟩ := ih (b := (b.update e).1) hes
    rw [htuning] at hx
    rw [run_cons]
    refine ⟨hl.trans hs.lasting, ?_⟩
    intro x hmem
    rcases List.mem_append.1 hmem with hmem | hmem
    · rcases hs.notice with ⟨-, -, hn⟩ | ⟨-, -, hn⟩
      · rw [hn] at hmem
        cases hmem
      · rw [hn, List.mem_singleton] at hmem
        exact ⟨_, hmem⟩
    · exact hx x hmem

/-- **A failure loses nothing.**  It is reported if something waits for what has failed, and one
that came too late changes nothing. -/
theorem failure_loses_nothing (h : e.fault? = some text) :
    Spared b e text (b.update e) ∧ (b.Stale e → b.update e = b.still) :=
  ⟨update_spared h, update_of_stale⟩

/-- The recipients of a sender are sorted again while one of them is marked, and do not come. -/
theorem failure_loses_nothing_of_a_drill :
    let b := (session {} [.rowsLoaded 1 (.ok [{ key := "alice@example.com" }]), .key .enter,
      .messagesLoaded 1 (.ok []), .key .tab, .rowsLoaded 2 (.ok [{ key := "bob@example.com" }]),
      .key (.char ' '), .key (.char 's')]).1
    let e := Event.rowsLoaded 3 (.error (.io "gone"))
    e.fault? = some "archive I/O failed: gone" ∧ b.concerns e = true ∧ b.crumbs.length = 2 ∧
      b.view.data.rows.map Row.key = ["bob@example.com"] ∧
      b.selection.keys.items = ["bob@example.com"] ∧
      Spared b e "archive I/O failed: gone" (b.update e) :=
  ⟨rfl, by decide +kernel, by decide +kernel, by decide +kernel, by decide +kernel,
    (failure_loses_nothing rfl).1⟩

end Browser
end MailBrowser
