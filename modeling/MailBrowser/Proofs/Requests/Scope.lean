import MailBrowser.Browser.Session
import MailBrowser.Proofs.Archive.Filters
import MailBrowser.Proofs.Navigation.Outlook
import MailBrowser.Proofs.Requests.Fits

/-!
# The scope of requests

* `Effect.scope?`   the account of a request and whether it is for messages with attachments only;
* `scope_answers`   an archive answers a request from what is in that scope;
* `Made`            the requests of the last step of a session;
* `Made.scope`      they are for the scope of the browser, but for rows within a drill that has
                    another one since that was changed and left;
* `Wanted`          the kind of answers that a view on the way would take in;
* `Made.current`    the last request of a kind that is wanted is of the account that is looked at.
-/

namespace MailBrowser

/-- Rows within a drill are asked for by its filter, and the options only matter at the top. -/
def Effect.scope? : Effect → Option (Option Int × Bool)
  | .loadRows _ _ none o => some (o.account, o.attachmentsOnly)
  | .loadRows _ _ (some f) _ => some (f.account, f.attachmentsOnly)
  | .loadMessages _ f _ => some (f.account, f.attachmentsOnly)
  | .search _ q => some (q.filter.account, q.filter.attachmentsOnly)
  | _ => none

/-- rows within a drill -/
def Effect.isWithin : Effect → Bool
  | .loadRows _ _ (some _) _ => true
  | _ => false

/-- A deep search is in the whole archive. -/
def Effect.isDeep : Effect → Bool
  | .search _ q => q.mode = .deep
  | _ => false

/-! ## what an archive makes of it -/

/-- an archive of the messages in a scope alone -/
def Archive.narrow (a : Archive) (account : Option Int) (attachmentsOnly : Bool) : Archive :=
  { a with messages := a.inScope account attachmentsOnly }

theorem Archive.inScope_narrow (a : Archive) (account : Option Int) (attachmentsOnly : Bool) :
    (a.narrow account attachmentsOnly).inScope account attachmentsOnly =
      a.inScope account attachmentsOnly := by
  show (a.messages.filter _).filter _ = a.messages.filter _
  rw [List.filter_filter]
  exact List.filter_congr fun m _ => Bool.and_self _

theorem Archive.selected_narrow (a : Archive) (f : Filter) :
    (a.narrow f.account f.attachmentsOnly).selected f = a.selected f := by
  unfold selected
  rw [inScope_narrow]

/-- **An archive answers a request from the messages in its scope.** -/
theorem scope_answers {x : Effect} {account : Option Int} {only : Bool}
    (hx : x.scope? = some (account, only)) (hd : x.isDeep = false) (a : Archive) (s : Session)
    (now : Instant) :
    ({ s with engine := a.engine }.perform now x).2 =
      ({ s with engine := (a.narrow account only).engine }.perform now x).2 := by
  cases x with
  | loadRows id d f o =>
    cases f with
    | none =>
      cases hx
      show some (Event.rowsLoaded id (.ok (grouped d o _))) = some (.rowsLoaded id (.ok (grouped d o _)))
      rw [Archive.inScope_narrow]
    | some f =>
      cases hx
      show some (Event.rowsLoaded id (.ok (grouped d o _))) = some (.rowsLoaded id (.ok (grouped d o _)))
      rw [Archive.selected_narrow]
  | loadMessages id f o =>
    cases hx
    show some (Event.messagesLoaded id (.ok (a.list f o))) = some (.messagesLoaded id (.ok (_)))
    unfold Archive.list
    rw [Archive.selected_narrow]
  | search id q =>
    cases hx
    have hm : q.mode = .fast := by
      cases hm : q.mode with
      | fast => rfl
      | deep => rw [Effect.isDeep, hm] at hd; cases hd
    show some (Event.searchLoaded id q.append (runSearch a.engine q)) =
      some (.searchLoaded id q.append (runSearch _ q))
    unfold runSearch
    rw [hm]
    show some (Event.searchLoaded id q.append (.ok ⟨a.searchFast _ _ _ _, a.countFast _ _⟩)) =
      some (.searchLoaded id q.append (.ok ⟨Archive.searchFast _ _ _ _ _, Archive.countFast _ _ _⟩))
    unfold Archive.searchFast Archive.countFast
    rw [Archive.selected_narrow]
  | _ => cases hx

theorem Effect.scope_of_stamp {x : Effect} (h : x.stamp? = none) : x.scope? = none := by
  cases x with
  | loadRows => cases h
  | loadMessages => cases h
  | search => cases h
  | _ => rfl

namespace Browser

/-- the effects of the last step of a session -/
inductive Made (c : Config) : List Event → Effect → Prop where
  | launch {x : Effect} (hx : x ∈ (launch c).2) : Made c [] x
  | step {es : List Event} {e : Event} {x : Effect} (hx : x ∈ ((session c es).1.update e).2) :
      Made c (es ++ [e]) x

variable {b c : Browser} {cfg : Config} {es : List Event} {x : Effect}

theorem loadRows_asks (b : Browser) : b.loadRows.2 =
    [.loadRows (b.ledger.current .rows + 1) b.view.dimension
      (if b.view.level = .subgroups then some b.view.filter else none) b.groupOptions] := rfl

/-- A request has the scope of the browser, or that of the filter of a drill. -/
def OfScope (b : Browser) (x : Effect) (scope : Option Int × Bool) : Prop :=
  scope = (b.account, b.attachmentsOnly) ∨
    (x.isWithin = true ∧ b.view.level = .subgroups ∧
      scope = (b.view.filter.account, b.view.filter.attachmentsOnly))

theorem loadRows_scope (hx : x ∈ b.loadRows.2) {scope : Option Int × Bool}
    (hs : x.scope? = some scope) : OfScope b x scope := by
  rw [loadRows_asks] at hx
  rw [List.mem_singleton.1 hx] at hs ⊢
  by_cases hl : b.view.level = .subgroups
  · rw [if_pos hl] at hs ⊢
    cases hs
    exact .inr ⟨rfl, hl, rfl⟩
  · rw [if_neg hl] at hs ⊢
    cases hs
    exact .inl rfl

theorem Ending.scope {s : Step} (h : Ending b s) (hx : x ∈ s.2) {scope : Option Int × Bool}
    (hs : x.scope? = some scope) : OfScope s.1 x scope := by
  cases h with
  | nothing => cases hx
  | notice text =>
    rw [List.mem_singleton.1 hx] at hs
    cases hs
  | other y hy hn =>
    rw [List.mem_singleton.1 hx, Effect.scope_of_stamp hy] at hs
    cases hs
  | rows => exact loadRows_scope hx hs
  | rowsAndStats =>
    rcases List.mem_append.1 hx with hx | hx
    · exact loadRows_scope hx hs
    · rw [List.mem_singleton.1 hx] at hs
      cases hs
  | messages =>
    rw [List.mem_singleton.1 hx] at hs
    cases hs
    exact .inl rfl
  | thread =>
    rw [List.mem_singleton.1 hx] at hs
    cases hs
  | detail m hm =>
    rw [List.mem_singleton.1 hx] at hs
    cases hs
  | search offset append =>
    rw [List.mem_singleton.1 hx] at hs
    cases hs
    cases append <;> exact .inl rfl

theorem Made.ofScope (h : Made cfg es x) {scope : Option Int × Bool} (hs : x.scope? = some scope) :
    OfScope (session cfg es).1 x scope := by
  cases h with
  | launch hx =>
    rcases List.mem_cons.1 hx with rfl | hx
    · cases hs
    · rcases List.mem_cons.1 hx with rfl | hx
      · cases hs
      · exact loadRows_scope (b := new cfg.tuning) hx hs
  | step hx =>
    obtain ⟨d, hd, -⟩ := update_ends (session cfg _).1 _
    rw [session_concat]
    exact hd.scope hx hs

/-- **A request is for the account that is looked at.  It is for the scope of the browser too, but
for rows within a drill whose scope has been left.** -/
theorem Made.scope (h : Made cfg es x) {account : Option Int} {only : Bool}
    (hs : x.scope? = some (account, only)) :
    account = (session cfg es).1.account ∧
      (only = (session cfg es).1.attachmentsOnly ∨ (x.isWithin = true ∧ ScopeLeft cfg es)) := by
  rcases h.ofScope hs with hsame | ⟨hw, hl, hfilter⟩
  · cases hsame
    exact ⟨rfl, .inl rfl⟩
  · cases hfilter
    refine ⟨(session_reachable cfg es).ofAccount.view, ?_⟩
    rcases (session_inStep cfg es).view (by rw [hl]; decide) with ho | ho
    · exact .inl ho
    · exact .inr ⟨hw, ho⟩

/-! ## what is wanted -/

/-- Answers of a kind would be taken in by a view on the way, or there is a list to go back to
behind a search. -/
def Wanted (k : LoadKind) (b : Browser) : Prop :=
  b.view.loads = k ∨ (∃ crumb ∈ b.crumbs, crumb.view.loads = k) ∨
    (k = .messages ∧ b.search.snapshot.isSome = true)

theorem loads_of_same {v w : View} (hl : w.level = v.level)
    (hq : v.level.isListed = true → w.query = v.query) : w.loads = v.loads := by
  unfold View.loads
  rw [hl]
  cases h : v.level with
  | list => rw [hq (by rw [h]; rfl)]
  | _ => rfl

theorem Wanted.congr {k : LoadKind} (h : Wanted k c) (hl : c.view.loads = k → b.view.loads = k)
    (hc : c.crumbs = b.crumbs)
    (hs : c.search.snapshot = none ∨ c.search.snapshot = b.search.snapshot) : Wanted k b := by
  rcases h with h | h | ⟨hk, h⟩
  · exact .inl (hl h)
  · rw [hc] at h
    exact .inr (.inl h)
  · rcases hs with hs | hs
    · rw [hs] at h; cases h
    · rw [hs] at h
      exact .inr (.inr ⟨hk, h⟩)

theorem SamePlace.wanted {k : LoadKind} (h : SamePlace b c) (hw : Wanted k c) : Wanted k b :=
  hw.congr (fun hl => (loads_of_same h.level h.query).symm.trans hl) h.crumbs (.inr h.snapshot)

theorem Entry.ledger {s : Step} (h : Entry b c s) : s.1.ledger = c.ledger.issue c.view.loads := by
  unfold View.loads
  cases h with
  | list hb hc hq => rw [hc]; dsimp only; rw [if_pos hq]; rfl
  | results hb hc hq => rw [hc]; dsimp only; rw [if_neg (by rw [hq]; decide)]; rfl
  | rows hb hc => rw [hc]; rfl
  | message m hb hc => rw [hc]; rfl
  | thread hb hc => rw [hc]; rfl

/-- Going back finds what is wanted there. -/
theorem goBack_wanted {k : LoadKind} {crumb : Crumb} {rest : List Crumb}
    (hc : b.crumbs = crumb :: rest) (h : Wanted k b.goBack.1) : Wanted k b := by
  have hl : b.goBack.1.view.loads = crumb.view.loads := by
    rw [goBack_eq hc]
    split
    · exact loads_congr (level_resume b crumb rest) (query_resume b crumb rest)
    · rw [reload_view]
      exact loads_congr (level_resume b crumb rest) (query_resume b crumb rest)
  have hs : b.goBack.1.search.snapshot = none := by
    rw [goBack_eq hc]
    split
    · rfl
    · exact (reload_samePlace _).snapshot
  rw [Wanted, goBack_crumbs hc, hl, hs] at h
  rcases h with h | ⟨other, hm, h⟩ | ⟨-, h⟩
  · exact .inr (.inl ⟨crumb, by rw [hc]; exact List.mem_cons_self, h⟩)
  · exact .inr (.inl ⟨other, by rw [hc]; exact List.mem_cons_of_mem _ hm, h⟩)
  · cases h

theorem goBack_account {crumb : Crumb} {rest : List Crumb} (hc : b.crumbs = crumb :: rest) :
    b.goBack.1.account = b.account := by
  rw [goBack_eq hc]
  split
  · rfl
  · exact (reload_samePlace _).account

/-- Only what lies below is wanted where the view itself has just been asked for. -/
theorem Wanted.below {k : LoadKind} (h : Wanted k c) (hk : k ≠ c.view.loads)
    (hc : c.crumbs = b.crumbs)
    (hs : c.search.snapshot = none ∨ c.search.snapshot = b.search.snapshot) : Wanted k b :=
  h.congr (fun hl => absurd hl.symm hk) hc hs

theorem loads_of_list {v : View} (hl : v.level = .list) :
    v.loads = if v.query.isEmpty then .messages else .search := by
  unfold View.loads
  rw [hl]

/-- A kind that is wanted was wanted before, and of the same account, unless it has just been asked
for. -/
theorem Way.wanted {k : LoadKind} {s : Step} (h : Way b s) (hb : b.Orderly)
    (hk : s.1.ledger.current k = b.ledger.current k) (hw : Wanted k s.1) :
    Wanted k b ∧ s.1.account = b.account := by
  cases h with
  | stay h => exact ⟨h.sameScene.toSamePlace.wanted hw, h.sameScene.account⟩
  | @line c h =>
    have hw : Wanted k c := hw
    refine ⟨?_, h.account⟩
    have hl := loads_of_same (View.of_outline View.level (fun _ => rfl) h.outline) h.query
    rcases h.snapshot with hs | hs | ⟨hlist, hq, -⟩
    · exact hw.congr hl.symm.trans h.crumbs (.inl hs)
    · exact hw.congr hl.symm.trans h.crumbs (.inr hs)
    · -- the list that is kept now is the one on screen
      rcases hw with hw | hw | ⟨rfl, -⟩
      · exact .inl (hl.symm.trans hw)
      · rw [h.crumbs] at hw
        exact .inr (.inl hw)
      · refine .inl ?_
        rw [loads_of_list hlist, if_pos hq]
  | @regroup c s hg h hs =>
    have hne := ne_of_issue h.ledger hs.ledger hk
    rw [← loads_of_grouped (v := c.view) (by rw [h.level]; exact hg)] at hne
    have hp := hs.ending.samePlace
    exact ⟨(hp.wanted hw).below hne h.crumbs h.snapshot, hp.account.trans h.account⟩
  | @relist c hl h hq hn =>
    have hne := ne_of_issue (s := c.loadMessages) (j := .messages) h.ledger rfl hk
    have hloads : c.view.loads = .messages := by
      rw [loads_of_list (h.level.trans hl), if_pos hq]
    rw [← hloads] at hne
    exact ⟨(Ending.messages.samePlace.wanted hw).below hne h.crumbs h.snapshot, h.account⟩
  | @search c hl h hq =>
    have hne := ne_of_issue (s := c.searchFrom 0 false) (j := .search) h.ledger rfl hk
    have hloads : c.view.loads = .search := by
      rw [loads_of_list (h.level.trans hl), if_neg (by rw [hq]; decide)]
    rw [← hloads] at hne
    exact ⟨((Ending.search 0 false).samePlace.wanted hw).below hne h.crumbs h.snapshot, h.account⟩
  | @retake c hl h hq hs =>
    have hw : Wanted k c := hw
    refine ⟨?_, h.account⟩
    have hloads : c.view.loads = .messages := by
      rw [loads_of_list (h.level.trans hl), if_pos hq]
    by_cases hm : k = .messages
    · exact .inr (.inr ⟨hm, hs⟩)
    · exact hw.below (by rw [hloads]; exact hm) h.crumbs h.snapshot
  | @turn c m hl h hf hd hm =>
    have hne := ne_of_issue (s := c.loadDetail m) (j := .detail) h.ledger rfl hk
    have hloads : c.view.loads = .detail := by
      unfold View.loads
      rw [h.level, hl]
    rw [← hloads] at hne
    exact ⟨((Ending.detail m hm).samePlace.wanted hw).below hne h.crumbs h.snapshot, h.account⟩
  | @down c s h he =>
    have hne := ne_of_issue h.ledger he.ledger hk
    have hp := he.ending.samePlace
    refine ⟨?_, hp.account.trans h.account⟩
    rcases hp.wanted hw with hw | ⟨crumb, hm, hw⟩ | ⟨hk, hs⟩
    · exact absurd hw.symm hne
    · rw [h.crumbs] at hm
      rcases List.mem_cons.1 hm with rfl | hm
      · exact .inl hw
      · exact .inr (.inl ⟨crumb, hm, hw⟩)
    · rcases h.search with hn | hsame
      · rw [hn] at hs; cases hs
      · rw [hsame] at hs
        exact .inr (.inr ⟨hk, hs⟩)
  | back hf h => exact ⟨goBack_wanted h hw, goBack_account h⟩
  | @top c s h hs =>
    have hne := ne_of_issue h.ledger hs.ledger hk
    rcases hs.ending.samePlace.wanted hw with hw | ⟨crumb, hm, -⟩ | ⟨-, hs⟩
    · rw [loads_of_grouped (by rw [h.level]; rfl)] at hw
      exact absurd hw.symm hne
    · rw [h.crumbs] at hm; cases hm
    · rw [h.snapshot] at hs; cases hs
  | stray hn h => exact absurd hb hn

theorem update_wanted {k : LoadKind} (hb : b.Reachable) {e : Event}
    (hk : (b.update e).1.ledger.current k = b.ledger.current k) (hw : Wanted k (b.update e).1) :
    Wanted k b ∧ (b.update e).1.account = b.account := by
  rcases update_way b e with h | ⟨j, d, -, hs, hd⟩
  · exact h.wanted hb.orderly hk hw
  · rw [hs] at hw ⊢
    exact ⟨hd.toSamePlace.wanted hw, hd.account⟩

/-! ## requests and the ledger -/

theorem Made.asked (h : Made cfg es x) (hs : x.stamp?.isSome = true) :
    Asked (session cfg es).1 x := by
  cases h with
  | launch hx => exact launch_asked hx hs
  | step hx =>
    rw [session_concat]
    exact update_asked (session_reachable cfg _) hx hs

/-- **A request that is the last of its kind is of the account that is looked at, if the kind is
wanted at all.** -/
theorem Made.current {before : List Event} (h : Made cfg before x) {k : LoadKind}
    (hp : before <+: es) (hs : x.stamp? = some (k, (session cfg es).1.ledger.current k))
    (hw : Wanted k (session cfg es).1) :
    (session cfg before).1.account = (session cfg es).1.account := by
  induction es using List.reverseRecOn with
  | nil => rw [List.prefix_nil.1 hp]
  | append_singleton es e ih =>
    rcases List.prefix_concat_iff.1 hp with hsame | hp
    · rw [hsame]
    · -- the number was given out before this step, and the step gave out none
      obtain ⟨j, hj⟩ := (h.asked (by rw [hs]; rfl)).stamp
      rw [hs, Option.some.injEq, Prod.mk.injEq] at hj
      obtain ⟨rfl, hn⟩ := hj
      obtain ⟨fs, rfl⟩ := hp
      have h1 := current_le_run (session cfg before).1 fs k
      have h2 := current_le_run (session cfg (before ++ fs)).1 [e] k
      rw [← session_append] at h1 h2
      have hk : (session cfg (before ++ fs ++ [e])).1.ledger.current k =
          (session cfg (before ++ fs)).1.ledger.current k := by omega
      rw [hk] at hs
      rw [session_concat] at hk hw ⊢
      obtain ⟨hw, ha⟩ := update_wanted (session_reachable cfg _) hk hw
      rw [ha]
      exact ih ⟨fs, rfl⟩ hs hw

end Browser
end MailBrowser
