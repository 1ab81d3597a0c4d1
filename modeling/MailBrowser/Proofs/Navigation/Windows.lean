import Mathlib.Data.List.Induction
import MailBrowser.Proofs.Navigation.Bounds
import MailBrowser.Proofs.Navigation.Excursion
import MailBrowser.Proofs.Navigation.Panes
import MailBrowser.Screen.Picture

/-!
# The cursor on its page

Where something is listed the cursor is on the page of its window, as long as no window is brought
back that was left on a higher screen: by going back, by leaving a search, or by a page more for a
list that has been lost.

* `Framed`            the cursor on screen is on its page;
* `Squeezes`          the steps that bring back a window whose cursor is not on the page;
* `framed_update`     no other step takes the cursor off its page;
* `HasWindow`         the windows of a view, of all below it and of the list behind a search;
* `shown_once`        each of them has its cursor on a page of a size that the screen once had;
* `markDrawn`         marks on the rows that the table draws;
* `cursor_on_page`    all of it, for sessions.
-/

namespace MailBrowser
namespace Browser

variable {b c : Browser} {e : Event}

def Framed (b : Browser) : Prop := b.view.Framed b.pageSize

inductive Squeezes (b : Browser) (e : Event) : Prop where
  /-- Back, but not from a message, whose place would be revealed. -/
  | back (crumb : Crumb) (rest : List Crumb) (hc : b.crumbs = crumb :: rest)
      (he : b.update e = b.goBack) (hl : b.view.level ≠ .reading)
      (hn : ¬ crumb.restore.Framed b.pageSize)
  /-- The list that was kept behind a search is shown again. -/
  | retake (kept : ListSnapshot) (hl : b.view.level = .list) (hk : b.search.snapshot = some kept)
      (he : b.update e = b.cancelSearch ∨ b.update e = b.applyQuery "")
      (hm : kept.messages ≠ []) (hn : ¬ kept.window.Shows b.pageSize)
  /-- A page more is shown for a list with nothing in it. -/
  | more (id : Nat) (page : SearchPage) (he : e = .searchLoaded id true (.ok page)) (hs : b.Shows e)
      (hm : b.view.data.messages = []) (hp : page.messages ≠ [])
      (hn : ¬ b.view.window.Shows b.pageSize)

/-! ## what comes back -/

/-- A view that is gone back to, at the size of the screen as it is. -/
theorem goBack_panes {crumb : Crumb} {rest : List Crumb} (hc : b.crumbs = crumb :: rest) :
    b.goBack.1.panes =
        (b.pageSize, (resumeAfter b.view crumb.restore b.pageSize).pane, rest) ∧
      b.goBack.1.search.snapshot = none := by
  rw [goBack_eq hc]
  split
  · exact ⟨rfl, rfl⟩
  · exact ⟨reload_panes _, reload_snapshot _⟩

theorem clearSearch_kept {kept : ListSnapshot} (hl : b.view.level = .list)
    (hk : b.search.snapshot = some kept) :
    b.clearSearch.1.panes =
        (b.pageSize, (.list, kept.messages.length, kept.window, b.view.threadWindow), b.crumbs) ∧
      b.clearSearch.1.search.snapshot = some kept := by
  have hn : (showSnapshot { b.view with query := "" } kept).listLength = kept.messages.length := by
    unfold View.listLength
    rw [show (showSnapshot { b.view with query := "" } kept).level = .list from hl]
    rfl
  unfold clearSearch
  dsimp only
  rw [show ((b.withQuery "").withSearch b.search.forgetResults).search.snapshot = some kept from hk]
  refine ⟨?_, hk⟩
  show (b.pageSize, (b.view.level, (showSnapshot { b.view with query := "" } kept).listLength,
    kept.window, b.view.threadWindow), b.crumbs) = _
  rw [hl, hn]

/-- A list that comes back from behind its search. -/
theorem retake_panes {kept : ListSnapshot} {s : Step} (hl : b.view.level = .list)
    (hk : b.search.snapshot = some kept) (hs : s = b.cancelSearch ∨ s = b.applyQuery "") :
    s.1.panes =
        (b.pageSize, (.list, kept.messages.length, kept.window, b.view.threadWindow), b.crumbs) ∧
      ∀ t, s.1.search.snapshot = some t → b.search.snapshot = some t := by
  rcases hs with rfl | rfl
  · have h := clearSearch_kept
      (b := b.withSearch (.bumpToken { b.search with active := false, input := "" })) hl hk
    unfold cancelSearch
    dsimp only
    rw [if_pos (by
      rw [Bool.and_eq_true, decide_eq_true_eq]
      exact ⟨hl, Option.isSome_iff_exists.2 ⟨kept, hk⟩⟩)]
    exact ⟨h.1, fun t ht => by cases ht⟩
  · have h := clearSearch_kept (b := b.withQuery "") hl hk
    unfold applyQuery
    dsimp only
    rw [show (b.withQuery "").view.level = .list from hl]
    exact ⟨h.1, fun t ht => hk.trans (h.2.symm.trans ht)⟩

/-- More of a search for a list with nothing in it keeps the window. -/
theorem more_panes {id : Nat} {page : SearchPage} (hs : b.Shows (.searchLoaded id true (.ok page)))
    (hm : b.view.data.messages = []) :
    (b.update (.searchLoaded id true (.ok page))).1.panes =
        (b.pageSize, (.list, page.messages.length, b.view.window, b.view.threadWindow), b.crumbs) ∧
      (b.update (.searchLoaded id true (.ok page))).1.search.snapshot = b.search.snapshot := by
  have hn : (showPage b.view page true).listLength = page.messages.length := by
    unfold View.listLength
    rw [show (showPage b.view page true).level = .list from hs.2.1]
    show (b.view.data.messages ++ page.messages).length = _
    rw [hm, List.nil_append]
  show (b.searchArrived id true (.ok page)).panes = _ ∧
    (b.searchArrived id true (.ok page)).search.snapshot = _
  unfold searchArrived
  rw [if_pos (by
    rw [Bool.and_eq_true, Bool.and_eq_true, decide_eq_true_eq, Bool.not_eq_true']
    exact ⟨⟨beq_iff_eq.2 hs.1.symm, hs.2.1⟩, hs.2.2⟩)]
  refine ⟨?_, rfl⟩
  show (b.pageSize, (b.view.level, (showPage b.view page true).listLength, b.view.window,
    b.view.threadWindow), b.crumbs) = _
  rw [hs.2.1, hn]

/-! ## the size of the screen -/

theorem Pan.pageSize_eq {s : Step} (h : Pan b s) : s.1.pageSize = b.pageSize := by
  cases h with
  | slide h => exact h.page
  | back crumb rest hc => exact congrArg (·.1) (goBack_panes hc).1
  | retake kept hl hk hs => exact congrArg (·.1) (retake_panes hl hk hs).1

theorem resize_pageSize_pos (b : Browser) (height : Nat) : 0 < (b.resize height).pageSize :=
  Nat.lt_of_lt_of_le Nat.zero_lt_one (Nat.le_max_right _ 1)

/-- A page has a row at least. -/
theorem Reachable.pageSize_pos (h : Reachable b) : 0 < b.pageSize := by
  refine h.induct (P := fun b => 0 < b.pageSize) (fun _ => Nat.succ_pos 19) fun b e hp => ?_
  cases update_passage hp e with
  | pan h =>
    rw [h.pageSize_eq]
    exact hp
  | more id page he hs hm hn =>
    subst he
    have h : (b.update (.searchLoaded id true (.ok page))).1.pageSize = b.pageSize :=
      congrArg (·.1) (more_panes hs hm).1
    rw [h]
    exact hp
  | resize height he =>
    subst he
    exact resize_pageSize_pos b height

/-! ## one step -/

/-- Coming back from a message reveals its place. -/
theorem framed_resumeAfter_of_reading {left v : View} {page : Nat} (hp : 0 < page)
    (hl : left.level = .reading)
    (hv : v.level = if left.readingFromThread then .thread else .list) :
    (resumeAfter left v page).Framed page := by
  rw [resumeAfter_of_linked page fun _ => hv]
  unfold broughtBack
  rw [if_pos hl]
  cases hf : left.readingFromThread with
  | true =>
    rw [hf] at hv
    exact View.framed_of_thread hv (Window.shows_moveTo _ _ hp)
  | false =>
    rw [hf] at hv
    have hm : v.level.isListed = true := by rw [hv]; rfl
    exact View.framed_of_listed hm (Window.shows_moveTo _ _ hp)

/-- Coming back from anything else brings a view back as it was left. -/
theorem resumeAfter_of_not_reading {left v : View} (page : Nat) (hl : left.level ≠ .reading) :
    resumeAfter left v page = v := by
  rw [resumeAfter_of_linked page fun h => absurd h hl]
  exact if_neg hl

theorem framed_goBack_iff {crumb : Crumb} {rest : List Crumb} (hc : b.crumbs = crumb :: rest) :
    b.goBack.1.Framed ↔ (resumeAfter b.view crumb.restore b.pageSize).Framed b.pageSize := by
  have h := (goBack_panes hc).1
  have hp : b.goBack.1.pageSize = b.pageSize := congrArg (·.1) h
  have hv : b.goBack.1.view.pane = _ := congrArg (·.2.1) h
  unfold Framed
  rw [hp]
  exact ⟨fun hf => hf.congr hv.symm, fun hf => hf.congr hv⟩

/-- a list of some length under a window -/
theorem framed_list_iff {w t : Window} {n : Nat} {crumbs : List Crumb}
    (h : c.panes = (b.pageSize, (.list, n, w, t), crumbs)) :
    c.Framed ↔ (n ≠ 0 → w.Shows b.pageSize) := by
  have hp : c.pageSize = b.pageSize := congrArg (·.1) h
  have hv : c.view.pane = (.list, n, w, t) := congrArg (·.2.1) h
  simp only [View.pane, Prod.mk.injEq] at hv
  obtain ⟨hl, hn, hw, -⟩ := hv
  unfold Framed
  rw [hp, ← hn, ← hw]
  refine ⟨fun hf => hf.list (by rw [hl]; rfl), fun hs => ⟨fun _ => hs, fun ht => ?_⟩⟩
  rw [hl] at ht
  cases ht

theorem Squeezes.not_framed (h : b.Squeezes e) : ¬ (b.update e).1.Framed := by
  intro hf
  cases h with
  | back crumb rest hc he hl hn =>
    rw [he, framed_goBack_iff hc, resumeAfter_of_not_reading _ hl] at hf
    exact hn hf
  | retake kept hl hk he hm hn =>
    exact hn ((framed_list_iff (retake_panes hl hk he).1).1 hf
      fun h => hm (List.length_eq_zero_iff.1 h))
  | more id page he hs hm hp hn =>
    subst he
    exact hn ((framed_list_iff (more_panes hs hm).1).1 hf
      fun h => hp (List.length_eq_zero_iff.1 h))

theorem framed_update (hr : Reachable b) (hb : b.Framed) (hs : ¬ b.Squeezes e) :
    (b.update e).1.Framed := by
  have hp := hr.pageSize_pos
  cases update_passage hp e with
  | pan h =>
    generalize hu : b.update e = s at h
    cases h with
    | slide h =>
      show s.1.view.Framed s.1.pageSize
      rw [h.page]
      exact h.view.framed hb
    | back crumb rest hc =>
      rw [framed_goBack_iff hc]
      by_cases hl : b.view.level = .reading
      · have hlink := hr.linked
        rw [hc] at hlink
        exact framed_resumeAfter_of_reading hp hl (hlink.1 hl)
      · rw [resumeAfter_of_not_reading _ hl]
        exact Decidable.byContradiction fun hn => hs (.back crumb rest hc hu hl hn)
    | retake kept hl hk he =>
      rw [framed_list_iff (retake_panes hl hk he).1]
      intro hm
      refine Decidable.byContradiction fun hn => hs (.retake kept hl hk (hu ▸ he) ?_ hn)
      exact fun h => hm (List.length_eq_zero_iff.2 h)
  | more id page he hshow hm hne =>
    subst he
    rw [framed_list_iff (more_panes hshow hm).1]
    exact fun _ => Decidable.byContradiction fun hn => hs (.more id page rfl hshow hm hne hn)
  | resize height he =>
    subst he
    have hq := resize_pageSize_pos b height
    exact View.framed_of_shows (Window.shows_reveal _ hq) (Window.shows_reveal _ hq)

/-! ## windows that are kept -/

/-- The browser has the window, on screen, on the way back or behind a search. -/
inductive HasWindow (b : Browser) : Window → Prop where
  | list : HasWindow b b.view.window
  | thread : HasWindow b b.view.threadWindow
  | below (crumb : Crumb) (hm : crumb ∈ b.crumbs) : HasWindow b crumb.view.window
  | threadBelow (crumb : Crumb) (hm : crumb ∈ b.crumbs) : HasWindow b crumb.view.threadWindow
  | kept (s : ListSnapshot) (hs : b.search.snapshot = some s) : HasWindow b s.window

variable {w : Window}

/-- A browser whose windows on screen are known has no others but those of another. -/
theorem hasWindow_cases {page : Nat} (hw : b.HasWindow c.view.window ∨ c.view.window.Shows page)
    (ht : b.HasWindow c.view.threadWindow ∨ c.view.threadWindow.Shows page)
    (hc : ∀ crumb ∈ c.crumbs, crumb ∈ b.crumbs ∨ crumb = b.crumb)
    (hk : ∀ s, c.search.snapshot = some s → b.HasWindow s.window) (h : c.HasWindow w) :
    b.HasWindow w ∨ w.Shows page := by
  cases h with
  | list => exact hw
  | thread => exact ht
  | below crumb hm =>
    rcases hc crumb hm with hm | rfl
    · exact .inl (.below crumb hm)
    · exact .inl .list
  | threadBelow crumb hm =>
    rcases hc crumb hm with hm | rfl
    · exact .inl (.threadBelow crumb hm)
    · exact .inl .thread
  | kept s hs => exact .inl (hk s hs)

theorem Slide.hasWindow (h : Slide b c) (hw : c.HasWindow w) :
    b.HasWindow w ∨ w.Shows b.pageSize := by
  refine hasWindow_cases (h.view.window.imp_left fun hs => ?_)
    (h.view.threadWindow.imp_left fun hs => ?_) h.crumbs (fun s hs => ?_) hw
  · rw [hs]; exact .list
  · rw [hs]; exact .thread
  · rcases h.kept s hs with hs | hs
    · exact .kept s hs
    · rw [hs]; exact .list

theorem resumeAfter_windows (left v : View) {page : Nat} (hp : 0 < page) :
    ((resumeAfter left v page).window = v.window ∨ (resumeAfter left v page).window.Shows page) ∧
      ((resumeAfter left v page).threadWindow = v.threadWindow ∨
        (resumeAfter left v page).threadWindow.Shows page) := by
  unfold resumeAfter
  split
  · exact ⟨.inl rfl, .inr (Window.shows_moveTo _ _ hp)⟩
  · exact ⟨.inr (Window.shows_moveTo _ _ hp), .inl rfl⟩
  · exact ⟨.inl rfl, .inl rfl⟩

theorem goBack_hasWindow {crumb : Crumb} {rest : List Crumb} (hp : 0 < b.pageSize)
    (hc : b.crumbs = crumb :: rest) (hw : b.goBack.1.HasWindow w) :
    b.HasWindow w ∨ w.Shows b.pageSize := by
  obtain ⟨hpanes, hs⟩ := goBack_panes hc
  have hv := congrArg (·.2.1) hpanes
  have hm {d : Crumb} (h : d ∈ crumb :: rest) : d ∈ b.crumbs := by rw [hc]; exact h
  have hwin : b.goBack.1.view.window = (resumeAfter b.view crumb.restore b.pageSize).window :=
    congrArg (·.2.2.1) hv
  have hthread : b.goBack.1.view.threadWindow =
      (resumeAfter b.view crumb.restore b.pageSize).threadWindow := congrArg (·.2.2.2) hv
  obtain ⟨hr, ht⟩ := resumeAfter_windows b.view crumb.restore hp
  refine hasWindow_cases ?_ ?_ (fun d hd => ?_) (fun s hk => ?_) hw
  · rw [hwin]
    refine hr.imp_left fun h => ?_
    rw [h]
    exact .below crumb (hm List.mem_cons_self)
  · rw [hthread]
    refine ht.imp_left fun h => ?_
    rw [h]
    exact .threadBelow crumb (hm List.mem_cons_self)
  · rw [show b.goBack.1.crumbs = rest from congrArg (·.2.2) hpanes] at hd
    exact .inl (hm (List.mem_cons_of_mem _ hd))
  · rw [hs] at hk
    cases hk

/-- A window put over the list on screen alone. -/
theorem hasWindow_of_panes {l : Level} {n : Nat} {x : Window}
    (h : c.panes = (b.pageSize, (l, n, x, b.view.threadWindow), b.crumbs)) (hx : b.HasWindow x)
    (hk : ∀ s, c.search.snapshot = some s → b.search.snapshot = some s) (hw : c.HasWindow w) :
    b.HasWindow w := by
  have hv := congrArg (·.2.1) h
  have hc {crumb : Crumb} (hm : crumb ∈ c.crumbs) : crumb ∈ b.crumbs := by
    rwa [show c.crumbs = b.crumbs from congrArg (·.2.2) h] at hm
  cases hw with
  | list =>
    rw [show c.view.window = x from congrArg (·.2.2.1) hv]
    exact hx
  | thread =>
    rw [show c.view.threadWindow = b.view.threadWindow from congrArg (·.2.2.2) hv]
    exact .thread
  | below crumb hm => exact .below crumb (hc hm)
  | threadBelow crumb hm => exact .threadBelow crumb (hc hm)
  | kept s hs => exact .kept s (hk s hs)

/-- **A step leaves a window alone or reveals its cursor.** -/
theorem hasWindow_update (hp : 0 < b.pageSize) (hw : (b.update e).1.HasWindow w) :
    b.HasWindow w ∨ w.Shows (b.update e).1.pageSize := by
  cases update_passage hp e with
  | pan h =>
    rw [h.pageSize_eq]
    generalize b.update e = s at h hw
    cases h with
    | slide h => exact h.hasWindow hw
    | back crumb rest hc => exact goBack_hasWindow hp hc hw
    | retake kept hl hk hs =>
      obtain ⟨hpanes, hsnap⟩ := retake_panes hl hk hs
      exact .inl (hasWindow_of_panes hpanes (.kept kept hk) hsnap hw)
  | more id page he hs hm hn =>
    subst he
    obtain ⟨hpanes, hsnap⟩ := more_panes hs hm
    exact .inl (hasWindow_of_panes hpanes .list (fun s hk => hsnap.symm.trans hk) hw)
  | resize height he =>
    subst he
    have hq := resize_pageSize_pos b height
    exact hasWindow_cases (c := b.resize height) (.inr (Window.shows_reveal _ hq))
      (.inr (Window.shows_reveal _ hq)) (fun _ hm => .inl hm) (fun s hs => .kept s hs) hw

/-! ## marks -/

/-- the rows of a list that its table draws on a page -/
def drawn {α : Type} (b : Browser) (xs : List α) : List α :=
  (xs.drop (tableStart xs.length b.view.window.cursor b.view.window.scroll b.pageSize)).take
    b.pageSize

/-- marks on the rows that the table draws -/
def markDrawn (b : Browser) : Browser :=
  match b.view.level with
  | .groups | .subgroups =>
    let keys := (b.drawn b.view.data.rows).map Row.key
    { b with selection := b.selection.addKeys b.view.dimension keys }
  | .list =>
    let ids := (b.drawn b.view.data.messages).map Summary.id
    { b with selection := b.selection.addMessages ids }
  | _ => b

/-- On a screen with room for it, a table has a header and a page. -/
theorem table_height (b : Browser) (width : Nat) {height : Nat} (h : chromeHeight < height) :
    (parts width height).2.1.inside.height = (b.resize height).pageSize + 1 := by
  have h : 5 < height := h
  show height - (if 2 ≤ height then 1 else 0) - (if 3 ≤ height then 1 else 0) - 2 =
    max (height - 5) 1 + 1
  rw [if_pos (by omega), if_pos (by omega)]
  omega

/-- A table does not move a window that shows its cursor. -/
theorem tableStart_of_shows {n page : Nat} (hn : w.cursor < n) (h : w.Shows page) :
    tableStart n w.cursor w.scroll page = w.scroll := by
  have hs := h.1
  have hc := h.2
  unfold tableStart windowStart
  rw [Nat.min_eq_left (by omega), Nat.min_eq_left (by omega), if_neg (by omega), if_neg (by omega)]

theorem visible_eq_drawn {α : Type} {xs : List α} (hw : Within b.view.window.cursor xs)
    (h : xs.length ≠ 0 → b.view.window.Shows b.pageSize) : b.visible xs = b.drawn xs := by
  rcases hw with hw | rfl
  · unfold visible drawn
    rw [tableStart_of_shows hw (h (by omega))]
  · unfold visible drawn
    rw [List.drop_nil, List.drop_nil]

theorem markVisible_eq_markDrawn (hf : b.Framed) (hr : b.view.InRange) :
    b.markVisible = b.markDrawn := by
  have hrows (hl : b.view.level.isGrouped = true) :
      b.visible b.view.data.rows = b.drawn b.view.data.rows := by
    refine visible_eq_drawn ((Sight.rowWithin_rows (s := b.view.sight) hl _).1 hr.row) ?_
    have hs := hf.list (isListed_of_isGrouped hl)
    unfold View.listLength at hs
    cases hv : b.view.level <;> rw [hv] at hl hs <;> first | exact hs | cases hl
  have hmessages (hl : b.view.level = .list) :
      b.visible b.view.data.messages = b.drawn b.view.data.messages := by
    have hs := hf.list (by rw [hl]; rfl)
    unfold View.listLength at hs
    rw [hl] at hs
    exact visible_eq_drawn (hr.cursor hl) hs
  unfold markVisible markDrawn
  cases hl : b.view.level with
  | groups =>
    dsimp only
    rw [hrows (by rw [hl]; rfl)]
  | subgroups =>
    dsimp only
    rw [hrows (by rw [hl]; rfl)]
  | list =>
    dsimp only
    rw [hmessages hl]
  | reading => rfl
  | thread => rfl

/-! ## sessions -/

variable {k : Config} {es : List Event}

/-- Every window that is kept had its cursor on a page of a size that the screen once had. -/
theorem shown_once (hw : (session k es).1.HasWindow w) :
    ∃ before, before <+: es ∧ w.Shows (session k before).1.pageSize := by
  induction es using List.reverseRecOn with
  | nil =>
    refine ⟨[], List.prefix_refl [], ?_⟩
    cases hw with
    | list => exact ⟨Nat.le_refl _, Nat.succ_pos 19⟩
    | thread => exact ⟨Nat.le_refl _, Nat.succ_pos 19⟩
    | below crumb hm => cases hm
    | threadBelow crumb hm => cases hm
    | kept s hs => cases hs
  | append_singleton es e ih =>
    rw [session_concat] at hw
    rcases hasWindow_update (Reachable.pageSize_pos ⟨k, es, rfl⟩) hw with hw | hw
    · obtain ⟨before, hpre, hs⟩ := ih hw
      exact ⟨before, hpre.trans (List.prefix_append es [e]), hs⟩
    · rw [← session_concat] at hw
      exact ⟨es ++ [e], List.prefix_refl _, hw⟩

theorem framed_launch (k : Config) : (launch k).1.Framed := View.framed_of_empty rfl

theorem framed_iff (k : Config) (es : List Event) :
    (∀ before, before <+: es → (session k before).1.Framed) ↔
      ∀ before e after, es = before ++ e :: after → ¬ (session k before).1.Squeezes e :=
  session_iff_unbroken framed_launch (fun _ _ => framed_update) (fun _ => id)
    (fun _ _ _ _ hs => hs.not_framed) k es

theorem framed_of_highest (h : ∀ before, before <+: es →
    (session k before).1.pageSize ≤ (session k es).1.pageSize) : (session k es).1.Framed := by
  have hs {w : Window} (hw : (session k es).1.HasWindow w) : w.Shows (session k es).1.pageSize := by
    obtain ⟨before, hpre, hs⟩ := shown_once hw
    exact hs.mono (h before hpre)
  exact View.framed_of_shows (hs .list) (hs .thread)

/-- **In a session the cursor is on its page, in every state, unless and until a window is squeezed.
Its window had it on the page of a screen before, so it is never above its page, and never off the
page of a screen that has not been higher.  On its page and in its list, the rows on screen are the
rows that the key for them marks.** -/
theorem cursor_on_page (k : Config) (es : List Event) :
    ((∀ before, before <+: es → (session k before).1.Framed) ↔
        ∀ before e after, es = before ++ e :: after → ¬ (session k before).1.Squeezes e) ∧
      let b := (session k es).1
      (∀ w, b.HasWindow w → ∃ before, before <+: es ∧ w.Shows (session k before).1.pageSize) ∧
        ((∀ before, before <+: es → (session k before).1.pageSize ≤ b.pageSize) → b.Framed) ∧
        (b.Framed → b.view.InRange → b.markVisible = b.markDrawn) :=
  ⟨framed_iff k es, fun _ => shown_once, framed_of_highest, markVisible_eq_markDrawn⟩

/-- The last of seven senders is gone into, the screen becomes lower, and back at the senders the
cursor is below the four that are on screen. -/
theorem cursor_below_the_page :
    ¬ ∀ (k : Config) (es : List Event), (session k es).1.view.Framed (session k es).1.pageSize := by
  intro h
  let rows := ["a", "b", "c", "d", "e", "f", "g"].map fun key => ({ key } : Row)
  let es : List Event := [
    .rowsLoaded 1 (.ok rows), .key .endKey, .key .enter, .messagesLoaded 1 (.ok []), .resize 9,
    .key .escape]
  have hf : ¬ (session {} es).1.view.Framed (session {} es).1.pageSize := by decide +kernel
  exact hf (h {} es)

end Browser
end MailBrowser
