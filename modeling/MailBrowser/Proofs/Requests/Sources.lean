import MailBrowser.Proofs.Requests.Scope

/-!
# Where rows and messages come from

Every row and every message that a view holds, or that is kept of a view or behind a search, came
with an answer that was shown, and the request for it was made for the account that is looked at.

* `Event.rows`, `Event.messages`   what an answer brings;
* `Holds`           what holds of all rows and of all messages of a scene, `Shift.holds` a step;
* `AskedFor`        a request for an account, in the scope of the moment it was made;
* `CameIn`          something came with an answer that was shown to such a request;
* `session_holds`   all that is held in a session came in so;
* `one_scope`       so requests are for one scope, and what is gone back to is of one account.
-/

namespace MailBrowser

def Event.rows : Event → List Row
  | .rowsLoaded _ (.ok rows) => rows
  | _ => []

def Event.messages : Event → List Summary
  | .messagesLoaded _ (.ok messages) => messages
  | .searchLoaded _ _ (.ok page) => page.messages
  | _ => []

/-- Requests for rows and for messages have a scope. -/
theorem Outcome.scope {x : Effect} {e : Event} (h : Outcome x e)
    (hne : e.rows ≠ [] ∨ e.messages ≠ []) : x.scope?.isSome = true := by
  have bare {P : Prop} (hr : e.rows = []) (hm : e.messages = []) : P := by
    rcases hne with h | h
    · exact absurd hr h
    · exact absurd hm h
  cases h with
  | rows id d f o r => cases f <;> rfl
  | messages => rfl
  | search => rfl
  | _ => exact bare rfl rfl

namespace Browser

variable {b c : Browser} {cfg : Config} {es : List Event} {e : Event} {x : Effect}
  {R : Row → Prop} {M : Summary → Prop}

/-! ## what a scene holds -/

structure Holds (R : Row → Prop) (M : Summary → Prop)
    (scene : Sight × List Crumb × Option ListSnapshot) : Prop where
  rows : ∀ row ∈ scene.1.rows, R row
  messages : ∀ m ∈ scene.1.messages, M m
  crumbs : ∀ crumb ∈ scene.2.1, ∀ d, crumb.kept = some d →
    (∀ row ∈ d.rows, R row) ∧ ∀ m ∈ d.messages, M m
  kept : ∀ t, scene.2.2 = some t → ∀ m ∈ t.messages, M m

theorem Holds.mono {R' : Row → Prop} {M' : Summary → Prop}
    {scene : Sight × List Crumb × Option ListSnapshot} (h : Holds R M scene)
    (hR : ∀ row, R row → R' row) (hM : ∀ m, M m → M' m) : Holds R' M' scene where
  rows row hm := hR row (h.rows row hm)
  messages m hm := hM m (h.messages m hm)
  crumbs crumb hc d hd :=
    ⟨fun row hm => hR row ((h.crumbs crumb hc d hd).1 row hm),
      fun m hm => hM m ((h.crumbs crumb hc d hd).2 m hm)⟩
  kept t ht m hm := hM m (h.kept t ht m hm)

theorem holds_top (R : Row → Prop) (M : Summary → Prop) :
    Holds R M (({} : View).sight, [], none) :=
  ⟨fun _ h => (by cases h), fun _ h => (by cases h), fun _ h => (by cases h),
    fun _ h => (by cases h)⟩

/-- other lists on screen, the rest as it was -/
theorem Holds.here {s : Sight} {kept : Option ListSnapshot} (h : Holds R M b.scene)
    (hr : ∀ row ∈ s.rows, R row) (hm : ∀ m ∈ s.messages, M m)
    (hk : ∀ t, kept = some t → ∀ m ∈ t.messages, M m) : Holds R M (s, b.crumbs, kept) :=
  ⟨hr, hm, h.crumbs, hk⟩

/-- a view with a crumb below it -/
theorem Holds.down {s : Sight} {kept : Option ListSnapshot} (h : Holds R M b.scene)
    (hr : ∀ row ∈ s.rows, R row) (hm : ∀ m ∈ s.messages, M m)
    (hk : kept = none ∨ kept = b.search.snapshot) : Holds R M (s, b.crumb :: b.crumbs, kept) where
  rows := hr
  messages := hm
  crumbs crumb hc d hd := by
    rcases List.mem_cons.1 hc with rfl | hc
    · have hd : (if !b.loading && !b.search.loading then some b.view.data else none) = some d := hd
      split at hd
      · cases hd
        exact ⟨h.rows, h.messages⟩
      · cases hd
    · exact h.crumbs crumb hc d hd
  kept t ht := by
    rcases hk with hk | hk
    · rw [show kept = some t from ht] at hk; cases hk
    · exact h.kept t (hk.symm.trans ht)

theorem Shift.holds (h : Shift b c) (hbare : b.CrumbsBare) (hb : Holds R M b.scene) :
    Holds R M c.scene := by
  have nothing {α : Type} {P : α → Prop} : ∀ a ∈ ([] : List α), P a := fun _ h => by cases h
  have forgotten : ∀ t, (none : Option ListSnapshot) = some t → ∀ m ∈ t.messages, M m :=
    fun _ h => by cases h
  cases h with
  | stay hv => rw [hv]; exact hb
  | forget hv => rw [hv]; exact hb.here hb.rows hb.messages forgotten
  | keep s hl hm hr hv =>
    rw [hv]
    refine hb.here hb.rows hb.messages fun t ht => ?_
    cases ht
    rw [hm]
    exact hb.messages
  | retake s hl hs kept hk hv =>
    rw [hv]
    refine hb.here hb.rows (hb.kept s hs) fun t ht => ?_
    rcases hk with hk | hk
    · rw [ht] at hk; cases hk
    · rw [ht, Option.some.injEq] at hk
      rw [hk]
      exact hb.kept s hs
  | move row hl hr hv => rw [hv]; exact hb.here hb.rows hb.messages hb.kept
  | moveInThread row hl hr hv => rw [hv]; exact hb.here hb.rows hb.messages hb.kept
  | empty hl hv => rw [hv]; exact hb.here nothing hb.messages hb.kept
  | find f hl hf hv => rw [hv]; exact hb.here hb.rows hb.messages hb.kept
  | turn index row threadRow f hl hi hf hv => rw [hv]; exact hb.here hb.rows hb.messages hb.kept
  | enterList hfree hl hv => rw [hv]; exact hb.down hb.rows nothing (.inl rfl)
  | enterRows hfree hl hv => rw [hv]; exact hb.down nothing hb.messages (.inl rfl)
  | enterMessage fromThread index hfree hl hi hv =>
    rw [hv]; exact hb.down hb.rows hb.messages (.inr rfl)
  | enterThread hfree hl hv => rw [hv]; exact hb.down hb.rows hb.messages (.inr rfl)
  | back crumb rest hc hv =>
    have hcrumb : crumb ∈ b.crumbs := by rw [hc]; exact List.mem_cons_self
    have hd : (resumeAfter b.view crumb.restore b.pageSize).data = crumb.kept.getD {} := by
      rw [data_resumeAfter]
      show crumb.kept.getD crumb.view.data = _
      rw [hbare crumb hcrumb]
    have hheld : (∀ row ∈ (crumb.kept.getD {}).rows, R row) ∧
        ∀ m ∈ (crumb.kept.getD {}).messages, M m := by
      cases hk : crumb.kept with
      | none => exact ⟨nothing, nothing⟩
      | some d => exact hb.crumbs crumb hcrumb d hk
    rw [← hd] at hheld
    rw [hv]
    refine ⟨hheld.1, hheld.2, fun other hm => hb.crumbs other ?_, forgotten⟩
    show other ∈ b.crumbs
    rw [hc]
    exact List.mem_cons_of_mem _ hm
  | top hv => rw [hv]; exact holds_top R M

/-- An answer brings rows or messages, and takes none. -/
theorem Holds.fill (h : Holds R M b.scene) (hr : ∀ row ∈ e.rows, R row)
    (hm : ∀ m ∈ e.messages, M m) (limit : Nat) :
    Holds R M (b.view.sight.fill limit e, b.crumbs, b.search.snapshot) := by
  cases e with
  | rowsLoaded id r =>
    cases r with
    | ok rows => exact h.here hr h.messages h.kept
    | error q => exact h
  | messagesLoaded id r =>
    cases r with
    | ok messages => exact h.here h.rows hm h.kept
    | error q => exact h
  | threadLoaded id r =>
    cases r with
    | ok messages => exact h.here h.rows h.messages h.kept
    | error q => exact h
  | searchLoaded id append r =>
    cases r with
    | ok page =>
      refine h.here h.rows (fun m hmem => ?_) h.kept
      cases append with
      | false => exact hm m hmem
      | true =>
        rcases List.mem_append.1 hmem with hmem | hmem
        · exact h.messages m hmem
        · exact hm m hmem
    | error q => exact h
  | _ => exact h

/-! ## where it comes from -/

/-- The request is for an account, and was made for the scope of that moment, but for rows within a
drill whose scope had been left. -/
def AskedFor (c : Config) (asked : List Event) (x : Effect) (account : Option Int) : Prop :=
  ∃ only, x.scope? = some (account, only) ∧
    (only = (session c asked).1.attachmentsOnly ∨ (x.isWithin = true ∧ ScopeLeft c asked))

/-- Something came with an answer that was shown, and each request that this was an outcome of was for
the account that is looked at. -/
def CameIn (c : Config) (es : List Event) (brings : Event → Prop) : Prop :=
  ∃ before e after, es = before ++ e :: after ∧ (session c before).1.Shows e ∧ brings e ∧
    ∀ asked x, asked <+: before → Made c asked x → Outcome x e →
      AskedFor c asked x (session c es).1.account

theorem CameIn.concat {brings : Event → Prop} (h : CameIn cfg es brings)
    (ha : (session cfg (es ++ [e])).1.account = (session cfg es).1.account) :
    CameIn cfg (es ++ [e]) brings := by
  obtain ⟨before, f, after, rfl, hs, hf, hx⟩ := h
  refine ⟨before, f, after ++ [e], by simp, hs, hf, fun asked x hp hm ho => ?_⟩
  rw [ha]
  exact hx asked x hp hm ho

theorem Made.askedFor (h : Made cfg es x) (hs : x.scope?.isSome = true) :
    AskedFor cfg es x (session cfg es).1.account := by
  obtain ⟨⟨account, only⟩, hs⟩ := Option.isSome_iff_exists.1 hs
  obtain ⟨rfl, ho⟩ := h.scope hs
  exact ⟨only, hs, ho⟩

theorem Shows.wanted (h : b.Shows e) : ∃ k, e.stamp? = some (k, b.ledger.current k) ∧ Wanted k b := by
  cases e with
  | rowsLoaded id r =>
    cases r with
    | error q => cases h
    | ok rows => exact ⟨.rows, by rw [← h.1]; rfl, .inl (loads_of_grouped h.2)⟩
  | messagesLoaded id r =>
    cases r with
    | error q => cases h
    | ok messages =>
      refine ⟨.messages, by rw [← h.1]; rfl, .inl ?_⟩
      rw [loads_of_list h.2.1, if_pos h.2.2]
  | threadLoaded id r =>
    cases r with
    | error q => cases h
    | ok messages =>
      refine ⟨.messages, by rw [← h.1]; rfl, .inl ?_⟩
      unfold View.loads
      rw [h.2]
  | detailLoaded id r =>
    cases r with
    | error q => cases h
    | ok d =>
      cases d with
      | none => cases h
      | some d =>
        refine ⟨.detail, by rw [← h.1]; rfl, .inl ?_⟩
        unfold View.loads
        rw [h.2]
  | searchLoaded id append r =>
    cases r with
    | error q => cases h
    | ok page =>
      refine ⟨.search, by rw [← h.1]; rfl, .inl ?_⟩
      rw [loads_of_list h.2.1, if_neg (by rw [h.2.2]; decide)]
  | _ => cases h

/-- An answer that is shown was asked for the account that is looked at. -/
theorem cameIn_of_shows {brings : Event → Prop} (hs : (session cfg es).1.Shows e)
    (ha : (session cfg (es ++ [e])).1.account = (session cfg es).1.account)
    (hne : e.rows ≠ [] ∨ e.messages ≠ []) (he : brings e) : CameIn cfg (es ++ [e]) brings := by
  refine ⟨es, e, [], rfl, hs, he, fun asked x hp hm ho => ?_⟩
  obtain ⟨k, hstamp, hw⟩ := hs.wanted
  have hnow := hm.current hp (ho.stamp.symm.trans hstamp) hw
  rw [ha, ← hnow]
  exact hm.askedFor (ho.scope hne)

/-- Of another account nothing is left. -/
theorem update_account (b : Browser) (e : Event) : (b.update e).1.account = b.account ∨
    (b.update e).1.scene = (({} : View).sight, [], none) := by
  have account {c : Browser} {l : Level} {only attachmentsOnly : Bool} {crumbs : List Crumb}
      (h : c.outlook = (b.account, attachmentsOnly, l, only, crumbs)) : c.account = b.account :=
    congrArg Prod.fst h
  cases update_rescope b e with
  | stay hv => exact .inl (account hv)
  | set only hv => exact .inl (account hv)
  | down level only hl ho hv => exact .inl (account hv)
  | back crumb rest hc hv => exact .inl (account hv)
  | top a only hs hv => exact .inr hs

theorem session_holds (c : Config) (es : List Event) :
    Holds (fun row => CameIn c es fun e => row ∈ e.rows)
      (fun m => CameIn c es fun e => m ∈ e.messages) (session c es).1.scene := by
  induction es using List.reverseRecOn with
  | nil => exact holds_top _ _
  | append_singleton es e ih =>
    rcases update_account (session c es).1 e with ha | hs
    · have ha : (session c (es ++ [e])).1.account = (session c es).1.account := by
        rw [session_concat]
        exact ha
      have hb := ih.mono (fun row h => h.concat (e := e) ha) fun m h => h.concat (e := e) ha
      rw [session_concat]
      rcases update_shift (session c es).1 e with h | ⟨hs, hv⟩
      · exact h.holds (session_reachable c es).crumbs_bare hb
      · rw [hv]
        refine hb.fill (fun row hm => ?_) (fun m hm => ?_) _
        · exact cameIn_of_shows hs ha (.inl (List.ne_nil_of_mem hm)) hm
        · exact cameIn_of_shows hs ha (.inr (List.ne_nil_of_mem hm)) hm
    · rw [session_concat, hs]
      exact holds_top _ _

end Browser
end MailBrowser
