import MailBrowser.Proofs.Navigation.Outlook
import MailBrowser.Proofs.Search.Course

/-!
# What a search leaves behind

When a search has been left with Escape, and everything has come, the view shows what it shows
without a search.  Only its totals may still be those of the results: they come back with a list
that was kept, and otherwise nothing gives them back.

* `Left`            the search has been cancelled, `Left.step` one outcome more;
* `press_escape`    the key that leaves a search, `cancelSearch_totals` and the totals it leaves;
* `SearchDone`      a search from its first key to the last of what it asked for;
* `totals_back_iff` the totals, the rows and the messages then.
-/

namespace MailBrowser
namespace Browser

variable {s b c : Browser} {d : Session} {waiting : List Effect} {e : Event} {es : List Event}

/-! ## after a search -/

/-- No tick that is owed still counts. -/
structure Left (s : Browser) (e : Engine) (b : Browser) (waiting : List Effect) : Prop
    extends Ongoing s e b waiting where
  query : b.view.query = ""
  active : b.search.active = false
  void : ∀ delay query token, .searchTick delay query token ∈ waiting → token < b.search.token

theorem Arrives.left (h : Left s d.engine b waiting) (ha : Arrives b e c)
    (hc : Ongoing s d.engine c (settle waiting e)) :
    Left s d.engine c (settle waiting e) ∧ c.view.totals = b.view.totals := by
  have hn : ¬ b.view.query.isEmpty = false := by
    rw [h.query]
    decide
  have hkeep : c.view.query = "" ∧ c.view.totals = b.view.totals := by
    cases ha.lands with
    | dropped hnot hv =>
      exact ⟨(congrArg (·.1) hv).trans h.query, congrArg (·.2.2.1) hv⟩
    | messages messages hl hs hev hv => exact ⟨congrArg (·.1) hv, congrArg (·.2.2.1) hv⟩
    | page messages totals hl hq hs hv => exact absurd hq hn
    | rows rows hl hq hs hev hv => exact ⟨congrArg (·.1) hv, congrArg (·.2.2.1) hv⟩
    | found rows hl hq hs hv => exact absurd hq hn
  refine ⟨⟨hc, hkeep.1, ha.active.trans h.active, fun delay query token hx => ?_⟩, hkeep.2⟩
  exact Nat.lt_of_lt_of_le (h.void delay query token (mem_of_settle hx)) ha.token

/-- **After a search only what is on screen is loaded again.** -/
theorem Left.step (h : Left s d.engine b waiting) (ho : Opening s d.engine)
    (he : Searching d b waiting e) :
    Left s d.engine (b.update e).1 (settle waiting e ++ (b.update e).2) ∧
      (b.update e).1.view.totals = b.view.totals := by
  have hc := (h.toOngoing.step ho he).1
  cases he with
  | line k ha => cases h.active.symm.trans ha
  | reopen ha hq =>
    rw [h.query] at hq
    cases hq
  | resize height =>
    refine ⟨⟨hc, h.query, h.active, fun delay query token hx => ?_⟩, rfl⟩
    exact h.void delay query token (mem_of_settle ((List.append_nil _).subst hx))
  | @outcome x e hx now he =>
    rcases h.outcome ho.searchable hx he with ⟨delay, query, token, rfl, rfl⟩ | ⟨c, hupd, ha⟩
    · have hupd : b.update (.searchTick query token) = (b, []) :=
        if_neg (Nat.ne_of_lt (h.void delay query token hx))
      rw [hupd] at hc ⊢
      refine ⟨⟨hc, h.query, h.active, fun delay query token hx => ?_⟩, rfl⟩
      exact h.void delay query token (mem_of_settle ((List.append_nil _).subst hx))
    · rw [hupd, List.append_nil] at hc ⊢
      exact ha.left h hc

theorem Left.run (h : Left s d.engine b waiting) (ho : Opening s d.engine)
    (hes : Searches d b waiting es) :
    Left s d.engine (b.run es).1 (b.owing waiting es) ∧
      (b.run es).1.view.totals = b.view.totals := by
  induction es generalizing b waiting with
  | nil => exact ⟨h, rfl⟩
  | cons e es ih =>
    obtain ⟨hc, ht⟩ := h.step ho hes.1
    obtain ⟨hend, htend⟩ := ih hc hes.2
    exact ⟨hend, htend.trans ht⟩

/-! ## from one end to the other -/

theorem cancelSearch_silences (b : Browser) : b.cancelSearch.1.view.query = "" ∧
    b.cancelSearch.1.search.token = b.search.token + 1 ∧
    ∀ delay query token, .searchTick delay query token ∉ b.cancelSearch.2 := by
  have nothing {delay : Nat} {query : String} {token : Nat} :
      Effect.searchTick delay query token ∉ [] := List.not_mem_nil
  have single {delay : Nat} {query : String} {token : Nat} {y : Effect}
      (hy : ∀ delay query token, y ≠ .searchTick delay query token) :
      Effect.searchTick delay query token ∉ [y] :=
    fun h => hy _ _ _ (List.mem_singleton.1 h).symm
  unfold cancelSearch
  dsimp only
  split
  · rename_i h
    rw [Bool.and_eq_true, decide_eq_true_eq] at h
    obtain ⟨u, hu⟩ := Option.isSome_iff_exists.1 h.2
    rw [clearSearch_of_snapshot _ hu]
    exact ⟨rfl, rfl, fun _ _ _ => nothing⟩
  · split
    · rename_i hq
      exact ⟨String.isEmpty_iff.1 hq, rfl, fun _ _ _ => nothing⟩
    · split
      · exact ⟨rfl, rfl, fun _ _ _ => single fun _ _ _ h => by cases h⟩
      · exact ⟨rfl, rfl, fun _ _ _ => single fun _ _ _ h => by cases h⟩
      · exact ⟨rfl, rfl, fun _ _ _ => single fun _ _ _ h => by cases h⟩
      · exact ⟨rfl, rfl, fun _ _ _ => nothing⟩

/-- The totals come back with a list that was kept, and are left alone otherwise. -/
theorem cancelSearch_totals (h : Ongoing s d.engine b waiting) (hb : b.Searchable) :
    b.cancelSearch.1.view.totals =
      if b.search.snapshot.isSome = true then s.view.totals else b.view.totals := by
  have hlev : b.view.level = s.view.level := level_of_footing h.footing
  unfold cancelSearch
  dsimp only
  split
  · rename_i hk
    rw [Bool.and_eq_true, decide_eq_true_eq] at hk
    obtain ⟨u, hu⟩ := Option.isSome_iff_exists.1 hk.2
    rw [clearSearch_of_snapshot _ hu]
    exact (h.retaken hu).2.trans (if_pos hk.2).symm
  · rename_i hk
    have hn : ¬ b.search.snapshot.isSome = true := by
      intro hsome
      rcases h.kept with hn | ⟨hl, -⟩
      · rw [hn] at hsome
        cases hsome
      · refine hk ?_
        rw [Bool.and_eq_true, decide_eq_true_eq]
        exact ⟨hlev.trans hl, hsome⟩
    refine Eq.trans ?_ (if_neg hn).symm
    split
    · rfl
    · split
      · rfl
      · rename_i hl
        rcases hb with hl' | hl' <;> cases hl'.symm.trans hl
      · rename_i hl
        exact if_neg fun hg => by cases (hl : b.view.level = .subgroups).symm.trans hg
      · rfl

/-- Escape leaves a search unless it leaves the view. -/
theorem Ongoing.press_escape (h : Ongoing s d.engine b waiting) (hr : b.Reachable) (hf : s.Free)
    (hs : s.Searchable) (hc : (b.press .escape).1.crumbs = s.crumbs) :
    b.press .escape = b.cancelSearch := by
  have hb : b.Searchable := h.searchable hs
  obtain ⟨hi, hd, hfind⟩ := h.undisturbed hf
  cases ha : b.search.active with
  | true =>
    rw [press_of_line hi hd ha]
    rfl
  | false =>
    have hpress : b.press .escape = b.pressInLevel .escape := press_of_free ⟨hi, hd, ha, hfind⟩
    have hback : b.press .escape ≠ b.goBack := by
      -- There is a view to go back to, and going back takes its crumb.
      intro hg
      have hl : b.view.level ≠ .groups := by rcases hb with hl | hl <;> rw [hl] <;> decide
      obtain ⟨crumb, rest, hcr⟩ := List.exists_cons_of_ne_nil (hr.crumbs_ne_nil hl)
      rw [hg, goBack_crumbs hcr] at hc
      have hsame : crumb :: rest = s.crumbs := hcr.symm.trans (congrArg (·.2.1) h.footing)
      exact List.cons_ne_self crumb rest (hsame.trans hc.symm)
    rw [hpress] at hback ⊢
    unfold pressInLevel at hback ⊢
    rcases hb with hl | hl
    · rw [hl] at hback ⊢
      exact if_neg fun hq => hback (if_pos hq)
    · rw [hl] at hback
      exact absurd (if_pos hl) hback

theorem Ongoing.cancel (h : Ongoing s d.engine b waiting) (hs : s.Searchable) :
    Left s d.engine b.cancelSearch.1
      (settle waiting (.key .escape) ++ b.cancelSearch.2) := by
  obtain ⟨hq, ht, hn⟩ := cancelSearch_silences b
  refine ⟨h.move (cancelSearch_moves (h.searchable hs)) fun l => not_outcome_lastLoad rfl, hq,
    cancelSearch_closes b, fun delay query token hx => ?_⟩
  rcases List.mem_append.1 hx with hx | hx
  · rw [ht]
    cases h.pending _ (mem_of_settle hx) with
    | tick _ _ htok => exact Nat.lt_succ_of_le htok
  · exact absurd hx (hn delay query token)

/-- The line is opened where nothing is owed. -/
theorem Opening.ongoing {engine : Engine} (h : Opening s engine) (ho : s.Orderly) :
    Ongoing s engine s.openSearch.1 s.openSearch.2 := by
  have hn : s.search.snapshot = none := ho.snapshot_none h.free.noLine
  have hg : (s.view.level.isGrouped || s.view.level = .list) = true := by
    rcases h.searchable with hl | hl <;> rw [hl] <;> rfl
  unfold openSearch
  rw [if_pos hg]
  refine ⟨rfl, ?_, fun _ h => (by cases h), fun _ _ => rfl, fun _ _ => rfl, fun _ => .inl rfl⟩
  dsimp only
  split
  · rename_i h
    rw [Bool.and_eq_true, Bool.and_eq_true, decide_eq_true_eq] at h
    exact .inr ⟨h.1.1, rfl⟩
  · exact .inl hn

/-- A view is searched after `es`, by `mid`; Escape cancels the search, and `fs` is what comes then,
with an engine that answers to the view without a search. -/
structure SearchDone (c : Config) (d : Session) (es mid fs : List Event) : Prop where
  rest : owed c es = []
  opening : Opening (session c es).1 d.engine
  search : Searches d (session c (es ++ [.key (.char '/')])).1
    (owed c (es ++ [.key (.char '/')])) mid
  /-- Escape stays at the view. -/
  stays : (session c (es ++ .key (.char '/') :: mid ++ [.key .escape])).1.crumbs =
    (session c es).1.crumbs
  after : Searches d (session c (es ++ .key (.char '/') :: mid ++ [.key .escape])).1
    (owed c (es ++ .key (.char '/') :: mid ++ [.key .escape])) fs
  done : owed c (es ++ .key (.char '/') :: mid ++ .key .escape :: fs) = []

variable {cfg : Config} {mid fs : List Event}

theorem SearchDone.opened (h : SearchDone cfg d es mid fs) :
    Ongoing (session cfg es).1 d.engine (session cfg (es ++ [.key (.char '/')])).1
      (owed cfg (es ++ [.key (.char '/')])) ∧
    (session cfg (es ++ [.key (.char '/')])).1.view.totals = (session cfg es).1.view.totals := by
  have hpress := press_slash_of_searchable h.opening.free h.opening.searchable
  have hreach : (session cfg es).1.Reachable := ⟨cfg, es, rfl⟩
  rw [owed_concat, session_concat, h.rest]
  show Ongoing _ _ ((session cfg es).1.press (.char '/')).1
      ([] ++ ((session cfg es).1.press (.char '/')).2) ∧
    ((session cfg es).1.press (.char '/')).1.view.totals = _
  rw [hpress, List.nil_append]
  refine ⟨h.opening.ongoing hreach.orderly, ?_⟩
  unfold openSearch
  split <;> rfl

theorem session_opened (cfg : Config) (es before : List Event) :
    (session cfg (es ++ .key (.char '/') :: before)).1 =
      ((session cfg (es ++ [.key (.char '/')])).1.run before).1 := by
  rw [List.append_cons, session_append]

theorem owed_opened (cfg : Config) (es before : List Event) :
    owed cfg (es ++ .key (.char '/') :: before) =
      (session cfg (es ++ [.key (.char '/')])).1.owing (owed cfg (es ++ [.key (.char '/')]))
        before := by
  rw [List.append_cons, owed_append]

theorem SearchDone.searched (h : SearchDone cfg d es mid fs) :
    Ongoing (session cfg es).1 d.engine (session cfg (es ++ .key (.char '/') :: mid)).1
      (owed cfg (es ++ .key (.char '/') :: mid)) := by
  rw [session_opened, owed_opened]
  exact h.opened.1.run h.opening h.search

theorem SearchDone.cancelled (h : SearchDone cfg d es mid fs) :
    let b := (session cfg (es ++ .key (.char '/') :: mid)).1
    let r := (session cfg (es ++ .key (.char '/') :: mid ++ [.key .escape])).1
    r = b.cancelSearch.1 ∧ Left (session cfg es).1 d.engine r
      (owed cfg (es ++ .key (.char '/') :: mid ++ [.key .escape])) := by
  intro b r
  have hr : r = (b.press .escape).1 := session_concat _ _ _
  have hcancel : b.press .escape = b.cancelSearch :=
    h.searched.press_escape ⟨cfg, _, rfl⟩ h.opening.free h.opening.searchable (hr ▸ h.stays)
  refine ⟨by rw [hr, hcancel], ?_⟩
  rw [hr, hcancel, owed_concat]
  show Left _ d.engine b.cancelSearch.1 (_ ++ (b.press .escape).2)
  rw [hcancel]
  exact h.searched.cancel h.opening.searchable

/-- **When a view has been searched and left unsearched, and everything has come, it shows its rows
or messages without a search.  Its totals are back exactly if the list was still kept when the
search was cancelled, or if they were the same still: so they are when no results had come.** -/
theorem totals_back_iff (h : SearchDone cfg d es mid fs) :
    let s := (session cfg es).1
    let b := (session cfg (es ++ .key (.char '/') :: mid)).1
    let f := (session cfg (es ++ .key (.char '/') :: mid ++ .key .escape :: fs)).1
    f.footing = s.footing ∧ f.view.query = "" ∧
      (f.view.data = s.view.data ∨ s.unsearched d.engine = .ok f.view.data) ∧
      (f.view.totals = s.view.totals ↔
        b.search.snapshot.isSome = true ∨ b.view.totals = s.view.totals) ∧
      ((∀ before e after, mid = before ++ e :: after →
          ¬ Recounts (session cfg (es ++ .key (.char '/') :: before)).1 e) →
        f.view.totals = s.view.totals) := by
  intro s b f
  obtain ⟨hr, hleft⟩ := h.cancelled
  obtain ⟨hend, htotals⟩ := hleft.run h.opening h.after
  rw [← owed_append, ← session_append, ← List.append_cons, h.done] at hend
  rw [← session_append, ← List.append_cons, hr,
    cancelSearch_totals h.searched (h.searched.searchable h.opening.searchable)] at htotals
  have hiff : f.view.totals = s.view.totals ↔
      b.search.snapshot.isSome = true ∨ b.view.totals = s.view.totals := by
    rw [htotals]
    split
    · rename_i hk
      exact ⟨fun _ => .inl hk, fun _ => rfl⟩
    · rename_i hk
      exact ⟨.inr, fun h => h.resolve_left hk⟩
  have hclear := hend.clear (by rw [hend.query]; rfl)
  refine ⟨hend.footing, hend.query, ?_, hiff, fun hn => hiff.2 (.inr ?_)⟩
  · rcases hclear with hd | hd | hd
    · exact .inl hd
    · exact .inr hd
    · cases hd
  · show (session cfg (es ++ .key (.char '/') :: mid)).1.view.totals = _
    rw [session_opened]
    refine h.opened.1.totals_run h.opening h.search ?_ h.opened.2
    intro before e after hmid
    rw [← session_opened]
    exact hn before e after hmid

def letterSummary (id : Int) : Summary := { id, conversation := 7 }

/-- an archive that lists two messages, and finds one of them -/
def oneFound : Session where
  engine := { Engine.failing (.io "disk") with
    list := fun _ _ => .ok [letterSummary 2, letterSummary 1]
    searchFast := fun _ _ _ _ => .ok [letterSummary 1]
    countFast := fun _ _ => .ok 1 }
  files := .fresh
  dataDir := "data"
  exportDir := "exports"

/-- down to the two messages -/
def twoListed : List Event := [
  .accountsLoaded (.ok []), .statsLoaded (.ok {}),
  .rowsLoaded 1 (.ok [{ key := "alice@example.com", count := 2 }]), .key .enter,
  .messagesLoaded 1 (.ok [letterSummary 2, letterSummary 1])]

/-- One of two messages is found while the line is open, and the search is cancelled. -/
theorem totals_back_over_a_kept_list :
    let mid : List Event := [.key (.char 'o'), .searchTick "o" 2,
      .searchLoaded 1 false (.ok { messages := [letterSummary 1], total := 1 })]
    SearchDone {} oneFound twoListed mid [] ∧
      (session {} (twoListed ++ .key (.char '/') :: mid)).1.view.totals = some { messages := 1 } ∧
      (session {} (twoListed ++ .key (.char '/') :: mid ++ [.key .escape])).1.view.totals =
        some { messages := 2 } := by
  intro mid
  have hdone : SearchDone {} oneFound twoListed mid [] := by
    refine ⟨by decide +kernel, ⟨⟨by decide +kernel, by decide +kernel, by decide +kernel,
      by decide +kernel⟩, .inl (by decide +kernel), by decide +kernel, ⟨_, rfl⟩⟩, ?_, by decide +kernel,
      trivial, by decide +kernel⟩
    refine ⟨.line _ (by decide +kernel), ?_, ?_, trivial⟩
    · exact .outcome (x := .searchTick 100 "o" 2) (by decide +kernel) .epoch rfl
    · exact .outcome (x := .search 1 {
        query := "o", filter := { sender := some "alice@example.com" }, limit := 100 })
        (by decide +kernel) .epoch rfl
  refine ⟨hdone, by decide +kernel, ?_⟩
  have hiff := (totals_back_iff hdone).2.2.2.1
  rw [hiff.2 (.inl (by decide +kernel))]
  decide +kernel

/-- The same, but with the search committed: two messages are counted as one. -/
theorem totals_of_results_stay :
    ¬ ∀ (cfg : Config) (d : Session) (es mid fs : List Event), SearchDone cfg d es mid fs →
      let s := (session cfg es).1
      let f := (session cfg (es ++ .key (.char '/') :: mid ++ .key .escape :: fs)).1
      f.view.totals = s.view.totals ∧
        (f.view.data = s.view.data ∨ s.unsearched d.engine = .ok f.view.data) := by
  intro h
  let mid : List Event := [.key (.char 'o'), .key .enter, .searchTick "o" 2,
    .searchLoaded 1 false (.ok { messages := [letterSummary 1], total := 1 })]
  let fs : List Event := [.messagesLoaded 2 (.ok [letterSummary 2, letterSummary 1])]
  have hdone : SearchDone {} oneFound twoListed mid fs := by
    refine ⟨by decide +kernel, ⟨⟨by decide +kernel, by decide +kernel, by decide +kernel,
      by decide +kernel⟩, .inl (by decide +kernel), by decide +kernel, ⟨_, rfl⟩⟩, ?_, by decide +kernel,
      ?_, by decide +kernel⟩
    · refine ⟨.line _ (by decide +kernel), .line _ (by decide +kernel), ?_, ?_, trivial⟩
      · exact .outcome (x := .searchTick 100 "o" 2) (by decide +kernel) .epoch rfl
      · exact .outcome (x := .search 1 {
          query := "o", filter := { sender := some "alice@example.com" }, limit := 100 })
          (by decide +kernel) .epoch rfl
    · refine ⟨?_, trivial⟩
      exact .outcome (x := .loadMessages 2 { sender := some "alice@example.com" } {})
        (by decide +kernel) .epoch rfl
  have hn : (session {} (twoListed ++ .key (.char '/') :: mid ++ .key .escape :: fs)).1.view.totals ≠
      (session {} twoListed).1.view.totals := by decide +kernel
  exact hn (h {} oneFound twoListed mid fs hdone).1

end Browser
end MailBrowser
