import MailBrowser.Proofs.Requests.Laws

/-!
# Answers and the views they are shown in

* `Asked`       a request that a step has just made, at the state after the step;
* `Outcome`     an event that tells what came of an effect;
* `Shows`       an answer that changes what is on screen;
* `Asked.fits`  as long as the view that asked has not been left upwards, an answer that is shown
                is what the view on screen stands for, but for the scope and the mode of searches.
-/

namespace MailBrowser

/-- any outcome of an effect -/
inductive Outcome : Effect → Event → Prop where
  | rows (id : Nat) (d : Dimension) (f : Option Filter) (o : GroupOptions)
      (r : Answer (List Row)) : Outcome (.loadRows id d f o) (.rowsLoaded id r)
  | messages (id : Nat) (f : Filter) (o : ListOptions) (r : Answer (List Summary)) :
      Outcome (.loadMessages id f o) (.messagesLoaded id r)
  | thread (id : Nat) (f : Filter) (o : ListOptions) (r : Answer (List Summary)) :
      Outcome (.loadThread id f o) (.threadLoaded id r)
  | detail (id : Nat) (m : Int) (r : Answer (Option Detail)) :
      Outcome (.loadDetail id m) (.detailLoaded id r)
  | search (id : Nat) (q : SearchRequest) (r : Answer SearchPage) :
      Outcome (.search id q) (.searchLoaded id q.append r)
  | tick (delay : Nat) (query : String) (token : Nat) :
      Outcome (.searchTick delay query token) (.searchTick query token)
  | stats (o : StatsOptions) (r : Answer Stats) : Outcome (.loadStats o) (.statsLoaded r)
  | accounts (r : Answer (List Account)) : Outcome .loadAccounts (.accountsLoaded r)
  | expired (delay generation : Nat) :
      Outcome (.expireFlash delay generation) (.flashExpired generation)
  | built (q : StageRequest) (r : Except DeletionError StagedBatch) :
      Outcome (.buildManifest q) (.manifestBuilt r)
  | saved (m : Manifest) (r : Except DeletionError (String × Nat)) :
      Outcome (.saveManifest m) (.manifestSaved r)
  | exported (subject : String) (message : Int) (attachments : List Attachment)
      (r : Except ExportError ExportReport) :
      Outcome (.exportAttachments subject message attachments) (.exportFinished r)

theorem Outcome.stamp {x : Effect} {e : Event} (h : Outcome x e) : e.stamp? = x.stamp? := by
  cases h <;> rfl

namespace Browser

/-! ## answers that are shown -/

def Shows (b : Browser) : Event → Prop
  | .rowsLoaded id (.ok _) => id = b.ledger.current .rows ∧ b.view.level.isGrouped = true
  | .messagesLoaded id (.ok _) =>
    id = b.ledger.current .messages ∧ b.view.level = .list ∧ b.view.query.isEmpty = true
  | .threadLoaded id (.ok _) => id = b.ledger.current .messages ∧ b.view.level = .thread
  | .detailLoaded id (.ok (some _)) => id = b.ledger.current .detail ∧ b.view.level = .reading
  | .searchLoaded id _ (.ok _) =>
    id = b.ledger.current .search ∧ b.view.level = .list ∧ b.view.query.isEmpty = false
  | _ => False

/-- An answer that is not shown leaves alone what is on screen. -/
theorem data_of_not_shows {b : Browser} {e : Event} (he : e.stamp?.isSome = true)
    (h : ¬ b.Shows e) : (b.update e).1.view.data = b.view.data := by
  cases e with
  | rowsLoaded id r =>
    show (b.rowsArrived id r).view.data = _
    unfold rowsArrived
    split
    · rename_i hc
      rw [Bool.and_eq_true] at hc
      cases r with
      | ok rows => exact absurd ⟨(beq_iff_eq.1 hc.1).symm, hc.2⟩ h
      | error e => rfl
    · rfl
  | messagesLoaded id r =>
    show (b.messagesArrived id r).view.data = _
    unfold messagesArrived
    split
    · rename_i hc
      rw [Bool.and_eq_true, decide_eq_true_eq] at hc
      dsimp only
      split
      · rfl
      · rename_i hq
        cases r with
        | ok messages =>
          exact absurd ⟨(beq_iff_eq.1 hc.1).symm, hc.2, by simpa using hq⟩ h
        | error e => rfl
    · rfl
  | threadLoaded id r =>
    show (b.threadArrived id r).view.data = _
    unfold threadArrived
    split
    · rename_i hc
      rw [Bool.and_eq_true, decide_eq_true_eq] at hc
      cases r with
      | ok messages => exact absurd ⟨(beq_iff_eq.1 hc.1).symm, hc.2⟩ h
      | error e => rfl
    · rfl
  | detailLoaded id r =>
    show (b.detailArrived id r).view.data = _
    unfold detailArrived
    split
    · rename_i hc
      rw [Bool.and_eq_true, decide_eq_true_eq] at hc
      cases r with
      | ok d =>
        cases d with
        | some d => exact absurd ⟨(beq_iff_eq.1 hc.1).symm, hc.2⟩ h
        | none => rfl
      | error e => rfl
    · rfl
  | searchLoaded id append r =>
    show (b.searchArrived id append r).view.data = _
    unfold searchArrived
    split
    · rename_i hc
      rw [Bool.and_eq_true, Bool.and_eq_true, decide_eq_true_eq, Bool.not_eq_true'] at hc
      cases r with
      | ok page => exact absurd ⟨(beq_iff_eq.1 hc.1.1).symm, hc.1.2, hc.2⟩ h
      | error e => rfl
    · rfl
  | _ => cases he

/-! ## requests that have just been made -/

structure Asked (b : Browser) (x : Effect) : Prop where
  reachable : b.Reachable
  stamp : ∃ k, x.stamp? = some (k, b.ledger.current k)
  asks : x.asks? = b.stance x
  issues : b.Issues x

theorem stamp_mem_stamps {x : Effect} {xs : List Effect} {s : LoadKind × Nat} (hx : x ∈ xs)
    (hs : x.stamp? = some s) : s ∈ stamps xs := List.mem_filterMap.2 ⟨x, hx, hs⟩

theorem update_asked {b : Browser} (hb : b.Reachable) {e : Event} {x : Effect}
    (hx : x ∈ (b.update e).2) (hs : x.stamp?.isSome = true) : Asked (b.update e).1 x where
  reachable := hb.update e
  stamp := by
    obtain ⟨s, hs⟩ := Option.isSome_iff_exists.1 hs
    have hm := stamp_mem_stamps hx hs
    rcases update_stamps b e with ⟨hn, -⟩ | ⟨k, hn, hl⟩
    · rw [hn] at hm; cases hm
    · rw [hn] at hm
      rw [List.mem_singleton.1 hm] at hs
      exact ⟨k, by rw [hs, hl, Ledger.current_issue_self]⟩
  asks := update_asks hx hs
  issues := update_issues hb hx

theorem launch_asked {c : Config} {x : Effect} (hx : x ∈ (launch c).2)
    (hs : x.stamp?.isSome = true) : Asked (launch c).1 x := by
  rcases List.mem_cons.1 hx with rfl | hx
  · cases hs
  · rcases List.mem_cons.1 hx with rfl | hx
    · cases hs
    · have hx := List.mem_singleton.1 hx
      exact ⟨.launched c, ⟨.rows, by rw [hx]; rfl⟩, by rw [hx]; rfl, by rw [hx]; exact rfl⟩

/-- Only rows are asked for where there is no way back. -/
theorem Asked.crumbs {b : Browser} {x : Effect} (h : Asked b x) {k : LoadKind} {n : Nat}
    (hs : x.stamp? = some (k, n)) : b.crumbs ≠ [] ∨ k = .rows := by
  by_cases hc : b.crumbs = []
  · have hl := h.reachable.linked
    rw [hc] at hl
    have hl : b.view.level = .groups := hl
    have hi := h.issues
    cases x with
    | loadRows => cases hs; exact .inr rfl
    | loadMessages =>
      have hi : b.view.level = .list := hi.1
      rw [hl] at hi; cases hi
    | loadThread =>
      have hi : b.view.level = .thread := hi
      rw [hl] at hi; cases hi
    | loadDetail =>
      have hi : b.view.level = .reading := hi.1
      rw [hl] at hi; cases hi
    | search =>
      have hi : b.view.level = .list := hi
      rw [hl] at hi; cases hi
    | _ => cases hs
  · exact .inl hc

/-! ## while the view that asked has not been left -/

/-- For a search, the scope and the mode are what they were. -/
def SameSearch (b c : Browser) : Effect → Prop
  | .search _ _ => c.attachmentsOnly = b.attachmentsOnly ∧ c.search.mode = b.search.mode
  | _ => True

variable {b : Browser} {x : Effect} {es : List Event} {e : Event}

/-- what a law says at the end of a run above the view that asked -/
theorem Asked.since (h : Asked b x) {k : LoadKind} {past : Crumb → Prop} {now : Browser → Prop}
    {n : Nat} (law : Law k b.account past now) (hs : x.stamp? = some (k, n)) (hb : now b)
    (hh : StaysAbove b.crumbs.length b es) (he : ∀ e ∈ es, e.stamp? ≠ x.stamp?)
    (hn : n = (b.run es).1.ledger.current k) :
    Since b.account past now b.crumbs (b.run es).1 := by
  obtain ⟨j, hj⟩ := h.stamp
  rw [hs] at hj
  cases hj
  refine law.run h.reachable.orderly ⟨⟨[], rfl, fun _ hm => by cases hm⟩, rfl, hb⟩ hh (h.crumbs hs)
    hn.symm fun e hm => ?_
  rw [← hs]
  exact he e hm

/-- A filter is the one of the list on screen when the drills and the scopes agree. -/
theorem eq_listFilter {f : Filter} (hd : b.view.filter.unscoped = f.unscoped)
    (ha : b.account = f.account) :
    f = b.listFilter ↔ b.attachmentsOnly = f.attachmentsOnly := by
  constructor
  · intro h
    rw [h]
    rfl
  · intro h
    have hf : f = { f.unscoped with account := f.account, attachmentsOnly := f.attachmentsOnly } := rfl
    rw [hf, ← hd, ← ha, ← h]
    rfl

/-- **An answer that is shown while the view that asked for it, or one above it, is on screen is
what the view on screen stands for.  Only the results of a search need the same scope and the same
mode besides.** -/
theorem Asked.fits (h : Asked b x) (hh : StaysAbove b.crumbs.length b es)
    (he : ∀ e ∈ es, e.stamp? ≠ x.stamp?) (ho : Outcome x e) (hs : (b.run es).1.Shows e) :
    x.asks? = (b.run es).1.stance x ↔ SameSearch b (b.run es).1 x := by
  have ha := h.asks
  have hi := h.issues
  cases ho with
  | rows id d f o r =>
    cases r with
    | error q => cases hs
    | ok rows =>
      have hw := (h.since (rows_law b.view.rowStance b.account) rfl (fun _ => rfl) hh he hs.1).now
      refine ⟨fun _ => trivial, fun _ => ha.trans ?_⟩
      exact congrArg some (hw hs.2).symm
  | messages id f o r =>
    cases r with
    | error q => cases hs
    | ok messages =>
      have hb : ListNow f b := by
        exact fun _ => ⟨hi.2.1, .inr ⟨hi.2.2, (Stance.messages.inj (Option.some.inj ha)).symm⟩⟩
      have hw := (h.since (list_law f b.account) rfl hb hh he hs.1).now
      refine ⟨fun _ => trivial, fun _ => ?_⟩
      rcases (hw hs.2.1).2 with hq | ⟨-, hf⟩
      · rw [hs.2.2] at hq; cases hq
      · exact congrArg (fun f => some (Stance.messages f)) hf.symm
  | thread id f o r =>
    cases r with
    | error q => cases hs
    | ok messages =>
      have hw := (h.since (thread_law b.view.conversation b.account) rfl (fun _ => rfl) hh he hs.1).now
      refine ⟨fun _ => trivial, fun _ => ha.trans ?_⟩
      exact congrArg (fun c => some (Stance.thread (some c))) (hw hs.2).symm
  | detail id m r =>
    cases r with
    | error q => cases hs
    | ok d =>
      cases d with
      | none => cases hs
      | some d =>
        have hb : ReadingNow m b := by
          exact fun _ => ⟨hi.2, (Stance.message.inj (Option.some.inj ha)).symm⟩
        have hw := (h.since (reading_law m b.account) rfl hb hh he hs.1).now
        refine ⟨fun _ => trivial, fun _ => ?_⟩
        exact congrArg (fun m => some (Stance.message m)) (hw hs.2).2.symm
  | search id q r =>
    cases r with
    | error q => cases hs
    | ok page =>
      have ha : some (Stance.results q.query q.mode q.filter) =
        some (.results b.view.query b.search.mode b.listFilter) := ha
      simp only [Option.some.injEq, Stance.results.injEq] at ha
      obtain ⟨hq, hm, hf⟩ := ha
      have hb : ResultsNow q b := fun _ _ => ⟨hq.symm, by rw [hf]; rfl⟩
      have hsince := h.since (results_law q b.account) rfl hb hh he hs.1
      obtain ⟨hwq, hwf⟩ := hsince.now hs.2.1 hs.2.2
      have hwa : (b.run es).1.account = q.filter.account := by rw [hf]; exact hsince.account
      have hl := eq_listFilter hwf hwa
      show some (Stance.results q.query q.mode q.filter) =
        some (.results (b.run es).1.view.query (b.run es).1.search.mode (b.run es).1.listFilter) ↔ _
      simp only [Option.some.injEq, Stance.results.injEq]
      rw [hl, hwq, hm, hf]
      constructor
      · rintro ⟨-, hm, hs⟩
        exact ⟨hs, hm.symm⟩
      · rintro ⟨hs, hm⟩
        exact ⟨rfl, hm.symm, hs⟩
  | _ => cases hs

end Browser
end MailBrowser
