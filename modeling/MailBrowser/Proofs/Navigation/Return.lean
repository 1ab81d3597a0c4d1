import Mathlib.Data.List.Induction
import MailBrowser.Proofs.Navigation.Excursion
import MailBrowser.Proofs.Requests.Fits

/-!
# What is found on the way back

A view that is gone back to holds what it held when it was left, or is loaded anew.

* `LeftAt`           the event that left the view that the top crumb is of; `leftAt_of_crumbs` there
                     is always one;
* `Brings`           the view holds what an answer brings;
* `Refills`          a step that asks for what its view is to show, under the last number;
* `reload_refills`   every view but a message is loaded anew so;
* `return_filled`    when a view that is gone back to is not empty for good.
-/

namespace MailBrowser
namespace Browser

variable {b : Browser} {c : Config} {es before after : List Event} {e : Event}

/-! ## where a crumb comes from -/

/-- The event left a crumb, and what came after it stayed above that crumb, and ends next to it. -/
structure LeftAt (c : Config) (before : List Event) (e : Event) (after : List Event) : Prop where
  deeper : (session c before).1.crumbs.length < ((session c before).1.update e).1.crumbs.length
  above : StaysAbove ((session c before).1.update e).1.crumbs.length
    ((session c before).1.update e).1 after
  top : (session c (before ++ e :: after)).1.crumbs.length =
    ((session c before).1.update e).1.crumbs.length

theorem session_reachable (c : Config) (es : List Event) : (session c es).1.Reachable :=
  ⟨c, es, rfl⟩

theorem LeftAt.crumbs (h : LeftAt c before e after) :
    ((session c before).1.update e).1.crumbs =
        (session c before).1.crumb :: (session c before).1.crumbs ∧
      (session c (before ++ e :: after)).1.crumbs =
        (session c before).1.crumb :: (session c before).1.crumbs := by
  have hs := session_reachable c before
  have hc := crumbs_of_deeper hs.orderly h.deeper
  have hsuf := suffix_of_staysAbove (hs.update e).orderly (List.suffix_refl _) h.above
  rw [← session_split] at hsuf
  exact ⟨hc, (hsuf.eq_of_length h.top.symm).symm.trans hc⟩

/-- The crumbs from one on were left by some event, and are still there because what came after
stayed above them. -/
theorem left_of_suffix {crumb : Crumb} {rest : List Crumb}
    (h : crumb :: rest <:+ (session c es).1.crumbs) :
    ∃ before e after, es = before ++ e :: after ∧
      (session c before).1.crumbs = rest ∧
      ((session c before).1.update e).1.crumbs = crumb :: rest ∧
      StaysAbove (rest.length + 1) ((session c before).1.update e).1 after := by
  induction es using List.reverseRecOn with
  | nil =>
    have h : crumb :: rest <:+ [] := h
    cases List.suffix_nil.1 h
  | append_singleton es e ih =>
    have hb := (session_reachable c es).orderly
    have hlen : rest.length + 1 ≤ (session c (es ++ [e])).1.crumbs.length := h.length_le
    rw [session_concat] at h hlen
    -- a crumb that was there before is there because of an earlier event
    have earlier (hs : crumb :: rest <:+ (session c es).1.crumbs) :
        ∃ before f after, es ++ [e] = before ++ f :: after ∧
          (session c before).1.crumbs = rest ∧
          ((session c before).1.update f).1.crumbs = crumb :: rest ∧
          StaysAbove (rest.length + 1) ((session c before).1.update f).1 after := by
      obtain ⟨before, f, after, rfl, hr, hc, ha⟩ := ih hs
      rw [session_split] at hlen
      exact ⟨before, f, after ++ [e], by simp, hr, hc, ha.concat hlen⟩
    rcases update_crumbs hb e with hc | hc | ⟨top, hc⟩ | hc
    · rw [hc] at h
      exact earlier h
    · rw [hc, List.suffix_cons_iff] at h
      rcases h with h | h
      · refine ⟨es, e, [], rfl, ?_, hc.trans h.symm, hlen⟩
        rw [List.cons.injEq] at h
        exact h.2.symm
      · exact earlier h
    · refine earlier ?_
      rw [hc]
      exact h.trans (List.suffix_cons _ _)
    · rw [hc, List.suffix_nil] at h
      cases h

theorem leftAt_of_crumbs (h : (session c es).1.crumbs ≠ []) :
    ∃ before e after, es = before ++ e :: after ∧ LeftAt c before e after := by
  obtain ⟨crumb, rest, hc⟩ := List.exists_cons_of_ne_nil h
  have hs : crumb :: rest <:+ (session c es).1.crumbs := ⟨[], hc.symm⟩
  obtain ⟨before, e, after, rfl, hr, hu, ha⟩ := left_of_suffix hs
  refine ⟨before, e, after, rfl, ?_, ?_, ?_⟩
  · rw [hr, hu]
    exact Nat.lt_succ_self _
  · rw [hu]
    exact ha
  · rw [hc, hu]

/-! ## what is loaded on the way back -/

/-- The view holds what the answer brings, of a thread as much as is shown. -/
def Brings (b : Browser) : Event → Prop
  | .rowsLoaded _ (.ok rows) => b.view.data.rows = rows
  | .messagesLoaded _ (.ok messages) => b.view.data.messages = messages
  | .threadLoaded _ (.ok messages) => b.view.data.thread = messages.take b.tuning.threadLimit
  | .detailLoaded _ (.ok detail) => b.view.data.detail = detail
  | .searchLoaded _ _ (.ok page) => b.view.data.messages = page.messages
  | _ => True

/-- The view is asked for by the kind of request that loads it, under the last number of that
kind, and whatever comes of it fills the view unless it is an error. -/
def Refills (s : Step) : Prop :=
  ∃ x ∈ s.2, x.stamp? = some (s.1.view.loads, s.1.ledger.current s.1.view.loads) ∧
    ∀ o, Outcome x o → (s.1.update o).1.Brings o

theorem isCurrent_self (l : Ledger) (k : LoadKind) : l.isCurrent k (l.current k) = true :=
  beq_self_eq_true _

theorem loads_of_grouped {v : View} (h : v.level.isGrouped = true) : v.loads = .rows := by
  unfold View.loads
  cases hl : v.level <;> rw [hl] at h <;> first | rfl | cases h

theorem brings_rows (hg : b.view.level.isGrouped = true) (r : Answer (List Row)) :
    (b.rowsArrived (b.ledger.current .rows) r).Brings (.rowsLoaded (b.ledger.current .rows) r) := by
  unfold rowsArrived
  rw [if_pos (by rw [isCurrent_self, hg]; rfl)]
  cases r with
  | ok rows => exact rfl
  | error q => trivial

theorem brings_messages (hl : b.view.level = .list) (hq : b.view.query.isEmpty = true)
    (r : Answer (List Summary)) :
    (b.messagesArrived (b.ledger.current .messages) r).Brings
      (.messagesLoaded (b.ledger.current .messages) r) := by
  unfold messagesArrived
  rw [if_pos (by rw [isCurrent_self, hl]; rfl)]
  dsimp only
  rw [if_neg (by rw [hq]; decide)]
  cases r with
  | ok messages => exact rfl
  | error q => trivial

theorem brings_thread (hl : b.view.level = .thread) (r : Answer (List Summary)) :
    (b.threadArrived (b.ledger.current .messages) r).Brings
      (.threadLoaded (b.ledger.current .messages) r) := by
  unfold threadArrived
  rw [if_pos (by rw [isCurrent_self, hl]; rfl)]
  cases r with
  | ok messages => exact rfl
  | error q => trivial

theorem brings_results (hl : b.view.level = .list) (hq : b.view.query.isEmpty = false)
    (r : Answer SearchPage) :
    (b.searchArrived (b.ledger.current .search) false r).Brings
      (.searchLoaded (b.ledger.current .search) false r) := by
  unfold searchArrived
  rw [if_pos (by rw [isCurrent_self, hl, hq]; rfl)]
  cases r with
  | ok page => exact rfl
  | error q => trivial

theorem loadRows_refills (hg : b.view.level.isGrouped = true) : Refills b.loadRows := by
  have hk : b.loadRows.1.view.loads = .rows := loads_of_grouped hg
  refine ⟨_, List.mem_singleton.2 rfl, by rw [hk]; rfl, fun o ho => ?_⟩
  cases ho with
  | rows id d f q r => exact brings_rows (b := b.loadRows.1) hg r

theorem RowsEnding.refills {s : Step} (h : RowsEnding b s) (hg : b.view.level.isGrouped = true) :
    Refills s := by
  have hr := loadRows_refills hg
  cases h with
  | alone => exact hr
  | withStats =>
    obtain ⟨x, hx, hs, ho⟩ := hr
    exact ⟨x, List.mem_append_left _ hx, hs, ho⟩

/-- **Every view but a message is loaded anew by the request that fills it.** -/
theorem reload_refills (hl : b.view.level ≠ .reading) : Refills b.reload := by
  cases h : b.view.level with
  | groups =>
    have hg : b.view.level.isGrouped = true := by rw [h]; rfl
    rw [reload_grouped b hg]
    exact loadRows_refills hg
  | subgroups =>
    have hg : b.view.level.isGrouped = true := by rw [h]; rfl
    rw [reload_grouped b hg]
    exact loadRows_refills hg
  | reading => exact absurd h hl
  | thread =>
    have hk : b.loadThread.1.view.loads = .messages := by
      show b.view.loads = _
      unfold View.loads
      rw [h]
    rw [reload_thread b h]
    refine ⟨_, List.mem_singleton.2 rfl, by rw [hk]; rfl, fun o ho => ?_⟩
    cases ho with
    | thread id f q r => exact brings_thread (b := b.loadThread.1) h r
  | list =>
    rw [reload_list b h]
    by_cases hq : b.view.query.isEmpty = true
    · have hk : b.loadMessages.1.view.loads = .messages := by
        show b.view.loads = _
        unfold View.loads
        rw [h]
        exact if_pos hq
      rw [if_pos hq]
      refine ⟨_, List.mem_singleton.2 rfl, by rw [hk]; rfl, fun o ho => ?_⟩
      cases ho with
      | messages id f q r => exact brings_messages (b := b.loadMessages.1) h hq r
    · have hk : b.searchAfresh.1.view.loads = .search := by
        show b.view.loads = _
        unfold View.loads
        rw [h]
        exact if_neg hq
      rw [if_neg hq]
      refine ⟨_, List.mem_singleton.2 rfl, by rw [hk]; rfl, fun o ho => ?_⟩
      cases ho with
      | search id q r => exact brings_results (b := b.searchAfresh.1) h (Bool.eq_false_iff.2 hq) r

/-! ## the way back -/

/-- A message is left for its thread only when it is on screen. -/
theorem Entry.detail {d : Browser} {s : Step} (h : Entry b d s) (hl : b.view.level = .reading) :
    b.view.data.detail.isSome = true := by
  cases h with
  | list hb => rw [hl] at hb; cases hb
  | results hb => rw [hl] at hb; cases hb
  | rows hb => rw [hl] at hb; cases hb
  | message m hb =>
    rw [hl] at hb
    rcases hb with hb | hb <;> cases hb
  | thread hb =>
    rcases hb with hb | hb
    · rw [hl] at hb; cases hb
    · exact hb.2

theorem detail_of_left (hb : b.Orderly) (hl : b.view.level = .reading)
    (h : (b.update e).1.crumbs = b.crumb :: b.crumbs) : b.view.data.detail.isSome = true := by
  have hlen : (b.update e).1.crumbs.length = b.crumbs.length + 1 := congrArg List.length h
  rcases update_way b e with hw | ⟨k, c, -, hs, hf⟩
  · rcases hw.climb hb with hc | ⟨c, hd, he⟩ | ⟨hg, crumb, rest, hc⟩ | ⟨c, ht, hs⟩
    · rw [hc] at hlen
      omega
    · exact he.detail hl
    · rw [hg, goBack_crumbs hc, hc, List.length_cons] at hlen
      omega
    · rw [hs.ending.samePlace.crumbs, ht.crumbs] at hlen
      cases hlen
  · have hc : c.crumbs.length = b.crumbs.length := congrArg List.length hf.crumbs
    rw [hs] at hlen
    have hlen : c.crumbs.length = b.crumbs.length + 1 := hlen
    omega

theorem isKept_crumb (s : Browser) :
    s.crumb.isKept = true ↔ ¬ (s.loading = true ∨ s.search.loading = true) := by
  show (if !s.loading && !s.search.loading then some s.view.data else none).isSome = true ↔ _
  cases s.loading <;> cases s.search.loading <;> simp

/-- What is gone back to holds what was kept of it, and else is loaded anew, unless it is a
message. -/
theorem goBack_filled {s q : Browser} (hq : q.crumbs = s.crumb :: s.crumbs)
    (hm : s.view.level = .reading → s.view.data.detail.isSome = true) :
    (q.goBack.1.view.data = s.view.data ∨ Refills q.goBack ↔
        ¬ (s.view.level = .reading ∧ (s.loading = true ∨ s.search.loading = true))) ∧
      (s.view.level = .reading ∧ (s.loading = true ∨ s.search.loading = true) →
        q.goBack.1.view.data = {} ∧ q.goBack.2 = []) := by
  have hl : (q.resume s.crumb s.crumbs).view.level = s.view.level := level_resume q s.crumb s.crumbs
  have hd : (q.resume s.crumb s.crumbs).view.data = s.crumb.restore.data := data_resumeAfter _ _ _
  rw [goBack_eq hq]
  by_cases hk : s.crumb.isKept = true
  · have hn := (isKept_crumb s).1 hk
    have hw : s.crumb.restore.data = s.view.data := by
      show s.crumb.kept.getD {} = _
      have hkept : s.crumb.kept = some s.view.data := if_pos (by simpa using hn)
      rw [hkept]
      rfl
    rw [if_pos hk]
    exact ⟨iff_of_true (.inl (hd.trans hw)) fun h => hn h.2, fun h => absurd h.2 hn⟩
  · have hn : s.loading = true ∨ s.search.loading = true := by
      by_contra h
      exact hk ((isKept_crumb s).2 h)
    have he : s.crumb.restore.data = {} := by
      show s.crumb.kept.getD {} = _
      have hkept : s.crumb.kept = none := by simpa [Crumb.isKept] using hk
      rw [hkept]
      rfl
    rw [if_neg hk]
    by_cases hr : s.view.level = .reading
    · have hstill := reload_reading (q.resume s.crumb s.crumbs) (hl.trans hr) (hd.trans he)
      rw [hstill]
      refine ⟨iff_of_false ?_ fun h => h ⟨hr, hn⟩, fun _ => ⟨hd.trans he, rfl⟩⟩
      rintro (h | ⟨x, hx, -⟩)
      · have hm := hm hr
        rw [← h, show (q.resume s.crumb s.crumbs).still.1.view.data = {} from hd.trans he] at hm
        cases hm
      · cases hx
    · have hf : Refills (q.resume s.crumb s.crumbs).reload := reload_refills (by rw [hl]; exact hr)
      exact ⟨iff_of_true (.inr hf) fun h => hr h.1, fun h => absurd h.1 hr⟩

/-- **For each view that is gone back to by one step there is the event that left it.  Either it
holds what it held then, or it is asked for by a request whose answer fills it; unless it is a
message that was left while something was loading, and then it holds nothing and nothing is asked
for.** -/
theorem return_filled {c : Config} {es : List Event} {k : Key}
    (hk : ((session c es).1.press k).1.crumbs.length + 1 = (session c es).1.crumbs.length) :
    let r := (session c es).1.press k
    (∃ before e after, es = before ++ e :: after ∧ LeftAt c before e after) ∧
      ∀ before e after, es = before ++ e :: after → LeftAt c before e after →
        let s := (session c before).1
        (r.1.view.data = s.view.data ∨ Refills r ↔
            ¬ (s.view.level = .reading ∧ (s.loading = true ∨ s.search.loading = true))) ∧
          (s.view.level = .reading ∧ (s.loading = true ∨ s.search.loading = true) →
            r.1.view.data = {} ∧ r.2 = []) := by
  intro r
  have hq := session_reachable c es
  refine ⟨leftAt_of_crumbs fun h => ?_, ?_⟩
  · rw [h] at hk
    cases hk
  rintro before e after rfl hleft s
  obtain ⟨hsc, hqc⟩ := hleft.crumbs
  have hs := session_reachable c before
  have hw : Way _ r := (press_keyStep _ k).way
  -- of all ways only those back and to the top make the stack lower
  rcases hw.climb hq.orderly with hc | ⟨d, hd, he⟩ | ⟨hg, -⟩ | ⟨d, ht, hr⟩
  · have hc := congrArg List.length hc
    have hk : r.1.crumbs.length + 1 = _ := hk
    omega
  · have hc := congrArg List.length (he.ending.samePlace.crumbs.trans hd.crumbs)
    have hk : r.1.crumbs.length + 1 = _ := hk
    rw [List.length_cons] at hc
    omega
  · rw [hg]
    exact goBack_filled hqc fun hl => detail_of_left hs.orderly hl hsc
  · -- what lies at the bottom are the rows of the archive
    have hc : r.1.crumbs = [] := hr.ending.samePlace.crumbs.trans ht.crumbs
    have hbottom : s.crumbs = [] := by
      have hk : r.1.crumbs.length + 1 = _ := hk
      rw [hc, hqc, List.length_cons] at hk
      exact List.length_eq_zero_iff.1 (Nat.succ.inj hk).symm
    have hlinked := hs.linked
    rw [hbottom] at hlinked
    have hl : s.view.level = .groups := hlinked
    have hf : Refills r := hr.refills (by rw [ht.level]; rfl)
    have hn : s.view.level ≠ .reading := by rw [hl]; decide
    exact ⟨iff_of_true (.inr hf) fun h => hn h.1, fun h => absurd h.1 hn⟩

/-- Rows that are left while they are sorted anew are asked for again. -/
theorem return_filled_after_sorting :
    let before : List Event := [.rowsLoaded 1 (.ok [{ key := "alice@example.com" }]),
      .key (.char 's')]
    let r := (session {} (before ++ [.key .enter])).1.press .escape
    r.1.view.data = (session {} before).1.view.data ∨ Refills r := by
  intro before r
  have h := (@return_filled {} (before ++ [.key .enter]) .escape (by decide +kernel)).2 before
    (.key .enter) [] rfl ⟨by decide +kernel, by decide +kernel, by decide +kernel⟩
  exact h.1.2 (by decide +kernel)

/-- A message is opened while its list is searched, and left for its thread: back from there it is
empty, and nothing is asked for. -/
theorem return_to_an_empty_message :
    ¬ ∀ (c : Config) (before : List Event) (e : Event) (after : List Event) (k : Key),
      LeftAt c before e after →
      let q := (session c (before ++ e :: after)).1
      (q.press k).1.crumbs.length + 1 = q.crumbs.length →
        (q.press k).1.view.data = (session c before).1.view.data ∨ Refills (q.press k) := by
  intro h
  let before : List Event := [.rowsLoaded 1 (.ok [{ key := "alice@example.com" }]), .key .enter,
    .messagesLoaded 1 (.ok [{ id := 1, conversation := 7 }]), .key (.char '/'), .key (.char 'o'),
    .key .enter, .key .enter, .detailLoaded 1 (.ok (some { id := 1, conversation := 7 }))]
  let q := (session {} (before ++ [.key (.char 'T')])).1
  have hr := h {} before (.key (.char 'T')) [] .escape
    ⟨by decide +kernel, by decide +kernel, by decide +kernel⟩ (by decide +kernel)
  rcases hr with hd | ⟨x, hx, -⟩
  · exact absurd hd (by decide +kernel)
  · have hn : (q.press .escape).2 = [] := by decide +kernel
    have hx : x ∈ (q.press .escape).2 := hx
    rw [hn] at hx
    cases hx

end Browser
end MailBrowser
