import MailBrowser.Proofs.Browser.Checked
import MailBrowser.Proofs.Navigation.Sight

/-!
# Places stay in their lists

The cursors and the message on screen are at places in the lists that they walk.  A message that was
opened from a list is at a place in that list too, which is where going back puts the cursor.

* `Sight.InRange`    every place that is on screen is in its list, or there is no list;
* `Follows`          a message is at a place in the list that it was opened from, if that is kept;
* `Bounded`          both, for the view on screen and for all that can be gone back to;
* `Overshoots`       a page more, for a list with nothing in it whose cursor is past the page;
* `update_bounded`   every other step keeps places in their lists;
* `in_range_iff`     in a session all places are in their lists unless a page was overshot.
-/

namespace MailBrowser

/-- the list that a message belongs to, in what was loaded -/
def Loaded.readingList (d : Loaded) (fromThread : Bool) : List Summary :=
  if fromThread then d.thread else d.messages

namespace Sight

structure InRange (s : Sight) : Prop where
  row : s.RowWithin s.row
  thread : s.level = .thread → Within s.threadRow s.thread
  reading : s.level = .reading → Within s.index s.readingList
  hit : Within s.find.hit s.find.hits

variable {s : Sight}

theorem rowWithin_rows (h : s.level.isGrouped = true) (row : Nat) :
    s.RowWithin row ↔ Within row s.rows := by
  unfold RowWithin
  cases hl : s.level <;> rw [hl] at h <;> first | exact Iff.rfl | cases h

theorem rowWithin_list (h : s.level = .list) (row : Nat) :
    s.RowWithin row ↔ Within row s.messages := by
  unfold RowWithin
  rw [h]

theorem rowWithin_of_not_listed (h : s.level.isListed = false) (row : Nat) : s.RowWithin row := by
  unfold RowWithin
  cases hl : s.level with
  | reading => trivial
  | thread => trivial
  | _ => rw [hl] at h; cases h

theorem inRange_rows (hl : s.level.isGrouped = true) (hr : Within s.row s.rows)
    (hf : Within s.find.hit s.find.hits) : s.InRange where
  row := (rowWithin_rows hl _).2 hr
  thread h := by rw [h] at hl; cases hl
  reading h := by rw [h] at hl; cases hl
  hit := hf

theorem inRange_list (hl : s.level = .list) (hr : Within s.row s.messages)
    (hf : Within s.find.hit s.find.hits) : s.InRange where
  row := (rowWithin_list hl _).2 hr
  thread h := by rw [h] at hl; cases hl
  reading h := by rw [h] at hl; cases hl
  hit := hf

theorem inRange_reading (hl : s.level = .reading) (hr : Within s.index s.readingList)
    (hf : Within s.find.hit s.find.hits) : s.InRange where
  row := rowWithin_of_not_listed (by rw [hl]; rfl) _
  thread h := by rw [h] at hl; cases hl
  reading _ := hr
  hit := hf

theorem inRange_thread (hl : s.level = .thread) (hr : Within s.threadRow s.thread)
    (hf : Within s.find.hit s.find.hits) : s.InRange where
  row := rowWithin_of_not_listed (by rw [hl]; rfl) _
  thread _ := hr
  reading h := by rw [h] at hl; cases hl
  hit := hf

end Sight

def View.InRange (v : View) : Prop := v.sight.InRange

theorem View.InRange.cursor {v : View} (h : v.InRange) (hl : v.level = .list) :
    Within v.window.cursor v.data.messages :=
  (Sight.rowWithin_list (s := v.sight) hl _).1 (Sight.InRange.row h)

def Follows : Sight → List Crumb → Prop
  | _, [] => True
  | s, crumb :: rest =>
    (s.level = .reading → ∀ d, crumb.kept = some d → s.index < (d.readingList s.fromThread).length ∧
      (s.readingList = [] ∨ s.readingList = d.readingList s.fromThread)) ∧
    Follows crumb.restore.sight rest

/-- A sight follows the crumbs below it if another one did that is at the same place, with the same
list or without one. -/
theorem Follows.shrink {s t : Sight} {crumbs : List Crumb} (h : Follows s crumbs)
    (hl : t.level = s.level) (hi : t.index = s.index) (hf : t.fromThread = s.fromThread)
    (hr : t.readingList = s.readingList ∨ t.readingList = []) : Follows t crumbs := by
  cases crumbs with
  | nil => trivial
  | cons crumb rest =>
    refine ⟨fun hlevel d hd => ?_, h.2⟩
    obtain ⟨hlt, hs⟩ := h.1 (hl.symm.trans hlevel) d hd
    rw [hi, hf]
    refine ⟨hlt, ?_⟩
    rcases hr with hr | hr
    · rw [hr]; exact hs
    · exact .inl hr

theorem Follows.of_not_reading {s t : Sight} {crumbs : List Crumb} (h : Follows s crumbs)
    (hl : t.level ≠ .reading) : Follows t crumbs := by
  cases crumbs with
  | nil => trivial
  | cons crumb rest => exact ⟨fun hlevel => absurd hlevel hl, h.2⟩

/-- without its lists -/
def Sight.bare (s : Sight) : Sight := { s with rows := [], messages := [], thread := [] }

theorem Sight.readingList_bare (s : Sight) : s.bare.readingList = [] := by
  unfold Sight.readingList
  split <;> rfl

theorem Sight.InRange.bare {s : Sight} (h : s.InRange) : s.bare.InRange where
  row := by
    show s.bare.RowWithin s.row
    unfold Sight.RowWithin
    split
    · exact within_nil _
    · exact within_nil _
    · exact within_nil _
    all_goals trivial
  thread _ := within_nil _
  reading _ := by
    rw [s.readingList_bare]
    exact within_nil _
  hit := h.hit

namespace Browser

structure Bounded (scene : Sight × List Crumb × Option ListSnapshot) : Prop where
  view : scene.1.InRange
  crumbs : ∀ crumb ∈ scene.2.1, crumb.restore.sight.InRange
  kept : ∀ s, scene.2.2 = some s → Within s.cursor s.messages
  follows : Follows scene.1 scene.2.1

variable {b c : Browser} {e : Event}

/-- What comes back of a view that is left has all of its lists, or none. -/
theorem sight_crumb (b : Browser) :
    (b.crumb.kept = some b.view.data ∧ b.crumb.restore.sight = b.view.sight) ∨
      (b.crumb.kept = none ∧ b.crumb.restore.sight = b.view.sight.bare) := by
  by_cases h : (!b.loading && !b.search.loading) = true
  · have hk : b.crumb.kept = some b.view.data := if_pos h
    refine .inl ⟨hk, ?_⟩
    unfold Crumb.restore
    rw [hk]
    rfl
  · have hk : b.crumb.kept = none := if_neg h
    refine .inr ⟨hk, ?_⟩
    unfold Crumb.restore
    rw [hk]
    rfl

theorem inRange_crumb (h : b.view.InRange) : b.crumb.restore.sight.InRange := by
  rcases sight_crumb b with ⟨-, hs⟩ | ⟨-, hs⟩
  · rw [hs]; exact h
  · rw [hs]; exact h.bare

theorem follows_crumb (h : Follows b.view.sight b.crumbs) :
    Follows b.crumb.restore.sight b.crumbs := by
  rcases sight_crumb b with ⟨-, hs⟩ | ⟨-, hs⟩
  · rw [hs]; exact h
  · rw [hs]; exact h.shrink rfl rfl rfl (.inr (Sight.readingList_bare _))

/-- A view with a crumb below it that was left of a view within bounds. -/
theorem Bounded.down {s : Sight} {kept : Option ListSnapshot} (h : Bounded b.scene)
    (hs : s.InRange) (hk : kept = none ∨ kept = b.search.snapshot)
    (hf : s.level = .reading → b.crumb.kept = some b.view.data →
      s.index < (b.view.data.readingList s.fromThread).length ∧
        s.readingList = b.view.data.readingList s.fromThread) :
    Bounded (s, b.crumb :: b.crumbs, kept) where
  view := hs
  crumbs crumb hm := by
    rcases List.mem_cons.1 hm with rfl | hm
    · exact inRange_crumb h.view
    · exact h.crumbs crumb hm
  kept t ht := by
    rcases hk with hk | hk
    · rw [show kept = some t from ht] at hk; cases hk
    · exact h.kept t (hk.symm.trans ht)
  follows := by
    refine ⟨fun hl d hd => ?_, follows_crumb h.follows⟩
    rcases sight_crumb b with ⟨hk, -⟩ | ⟨hk, -⟩
    · rw [hk, Option.some.injEq] at hd
      subst hd
      exact (hf hl hk).imp id .inr
    · rw [hk] at hd; cases hd

/-- A change of the view on screen alone. -/
theorem Bounded.here {s : Sight} {kept : Option ListSnapshot} (h : Bounded b.scene)
    (hs : s.InRange) (hf : Follows s b.crumbs)
    (hk : ∀ t, kept = some t → Within t.cursor t.messages) : Bounded (s, b.crumbs, kept) :=
  ⟨hs, h.crumbs, hk, hf⟩

/-! ## back -/

theorem restore_bare {crumb : Crumb} (hd : crumb.view.data = {}) (hk : crumb.kept = none) :
    crumb.restore.data = {} := by
  unfold Crumb.restore
  rw [hk]
  exact hd

theorem resumeAfter_inRange {left : View} {crumb : Crumb} {rest : List Crumb} (page : Nat)
    (hf : Follows left.sight (crumb :: rest)) (hd : crumb.view.data = {})
    (h : crumb.restore.sight.InRange) : (resumeAfter left crumb.restore page).InRange := by
  have hlt (hl : left.level = .reading) : Within left.readingIndex
      (crumb.restore.data.readingList left.readingFromThread) := by
    cases hk : crumb.kept with
    | none =>
      rw [restore_bare hd hk]
      refine .inr ?_
      unfold Loaded.readingList
      split <;> rfl
    | some d =>
      refine .inl ?_
      have hr : crumb.restore.data = d := by
        unfold Crumb.restore
        rw [hk]
        rfl
      rw [hr]
      exact (hf.1 hl d hk).1
  unfold resumeAfter
  split
  · rename_i hl hv hthread
    have hw := hlt hl
    rw [hthread] at hw
    exact ⟨h.row, fun _ => hw, h.reading, h.hit⟩
  · rename_i hl hv hthread
    have hw := hlt hl
    rw [hthread] at hw
    have hrow := (Sight.rowWithin_list (s := crumb.restore.sight) hv left.readingIndex).2 hw
    exact ⟨hrow, h.thread, h.reading, h.hit⟩
  · exact h

theorem resumeAfter_follows {left : View} {crumb : Crumb} {rest : List Crumb} (page : Nat)
    (hf : Follows left.sight (crumb :: rest)) :
    Follows (resumeAfter left crumb.restore page).sight rest := by
  unfold resumeAfter
  split
  · exact hf.2.shrink rfl rfl rfl (.inl rfl)
  · exact hf.2.shrink rfl rfl rfl (.inl rfl)
  · exact hf.2

/-! ## steps that are no answers -/

theorem HitKept.within {f g : Find} (h : HitKept f g) (hf : Within f.hit f.hits) :
    Within g.hit g.hits := by
  rcases h with ⟨hh, hs⟩ | h
  · rw [hh, hs]; exact hf
  · exact h

theorem Shift.bounded (h : Shift b c) (hbare : b.CrumbsBare) (hb : Bounded b.scene) :
    Bounded c.scene := by
  have hview : b.view.sight.InRange := hb.view
  have hfollows : Follows b.view.sight b.crumbs := hb.follows
  cases h with
  | stay hv => rw [hv]; exact hb
  | forget hv =>
    rw [hv]
    exact hb.here hview hfollows fun t ht => by cases ht
  | keep s hl hm hr hv =>
    rw [hv]
    refine hb.here hview hfollows fun t ht => ?_
    cases ht
    rw [hm, hr]
    exact View.InRange.cursor hb.view hl
  | retake s hl hs kept hk hv =>
    rw [hv]
    have hw := hb.kept s hs
    refine hb.here (Sight.inRange_list hl hw hview.hit) (hfollows.of_not_reading ?_) fun t ht => ?_
    · show b.view.level ≠ .reading
      rw [hl]
      decide
    · rcases hk with hk | hk
      · rw [ht] at hk; cases hk
      · rw [ht, Option.some.injEq] at hk
        rw [hk]
        exact hw
  | move row hl hr hv =>
    rw [hv]
    exact hb.here ⟨hr, hview.thread, hview.reading, hview.hit⟩
      (hfollows.shrink rfl rfl rfl (.inl rfl)) hb.kept
  | moveInThread row hl hr hv =>
    rw [hv]
    exact hb.here (Sight.inRange_thread hl hr hview.hit)
      (hfollows.shrink rfl rfl rfl (.inl rfl)) hb.kept
  | empty hl hv =>
    rw [hv]
    exact hb.here (Sight.inRange_rows hl (within_nil _) hview.hit)
      (hfollows.shrink rfl rfl rfl (.inl rfl)) hb.kept
  | find f hl hf hv =>
    rw [hv]
    exact hb.here ⟨hview.row, hview.thread, hview.reading, hf.within hview.hit⟩
      (hfollows.shrink rfl rfl rfl (.inl rfl)) hb.kept
  | turn index row threadRow f hl hi hf hv =>
    rw [hv]
    refine hb.here (Sight.inRange_reading hl (.inl hi) (hf.within hview.hit)) ?_ hb.kept
    -- the place is in the list of the message, which is the one that lies below
    cases hc : b.crumbs with
    | nil => trivial
    | cons crumb rest =>
      rw [hc] at hfollows
      refine ⟨fun _ d hd => ?_, hfollows.2⟩
      obtain ⟨-, hs⟩ := hfollows.1 hl d hd
      have hs : b.view.readingList = [] ∨ b.view.readingList =
        d.readingList b.view.readingFromThread := hs
      refine ⟨?_, hs⟩
      rcases hs with hs | hs
      · rw [hs] at hi; cases hi
      · rw [hs] at hi; exact hi
  | enterList hfree hl hv =>
    rw [hv]
    exact hb.down (Sight.inRange_list rfl (within_nil _) hview.hit) (.inl rfl) fun h => by cases h
  | enterRows hfree hl hv =>
    rw [hv]
    exact hb.down (Sight.inRange_rows rfl (within_nil _) hview.hit) (.inl rfl) fun h => by cases h
  | enterMessage fromThread index hfree hl hi hv =>
    rw [hv]
    exact hb.down (Sight.inRange_reading rfl (.inl hi) (within_zero _)) (.inr rfl)
      fun _ _ => ⟨hi, rfl⟩
  | enterThread hfree hl hv =>
    rw [hv]
    exact hb.down (Sight.inRange_thread rfl (within_nil _) hview.hit) (.inr rfl)
      fun h => by cases h
  | back crumb rest hc hv =>
    rw [hv]
    rw [hc] at hfollows
    have hm {d : Crumb} (h : d ∈ crumb :: rest) : d ∈ b.crumbs := by rw [hc]; exact h
    refine ⟨?_, fun d hd => hb.crumbs d (hm (List.mem_cons_of_mem _ hd)),
      fun t ht => (by cases ht), resumeAfter_follows _ hfollows⟩
    exact resumeAfter_inRange _ hfollows (hbare crumb (hm List.mem_cons_self))
      (hb.crumbs crumb (hm List.mem_cons_self))
  | top hv =>
    rw [hv]
    exact ⟨Sight.inRange_rows rfl (within_nil _) (within_zero _), fun d hd => (by cases hd),
      fun t ht => (by cases ht), trivial⟩

/-! ## answers -/

/-- A page more is shown for a list with nothing in it, and the cursor is past the page. -/
def Overshoots (b : Browser) (e : Event) : Prop :=
  ∃ id page, e = .searchLoaded id true (.ok page) ∧ b.Shows e ∧ b.view.data.messages = [] ∧
    page.messages ≠ [] ∧ page.messages.length ≤ b.view.window.cursor

theorem within_append {α : Type} {n : Nat} {xs ys : List α} (h : Within n xs) (hx : xs ≠ []) :
    Within n (xs ++ ys) := by
  rcases h with h | h
  · refine .inl ?_
    rw [List.length_append]
    omega
  · exact absurd h hx

theorem fill_inRange (hb : b.view.InRange) (hs : b.Shows e) (ho : ¬ Overshoots b e) (limit : Nat) :
    (b.view.sight.fill limit e).InRange := by
  have hview : b.view.sight.InRange := hb
  cases e with
  | rowsLoaded id r =>
    cases r with
    | error q => cases hs
    | ok rows => exact Sight.inRange_rows hs.2 (within_min _ _) hview.hit
  | messagesLoaded id r =>
    cases r with
    | error q => cases hs
    | ok messages => exact Sight.inRange_list hs.2.1 (within_min _ _) hview.hit
  | threadLoaded id r =>
    cases r with
    | error q => cases hs
    | ok messages => exact Sight.inRange_thread hs.2 (within_min _ _) hview.hit
  | detailLoaded id r => exact hview
  | searchLoaded id append r =>
    cases r with
    | error q => cases hs
    | ok page =>
      refine Sight.inRange_list hs.2.1 ?_ hview.hit
      cases append with
      | false => exact within_zero _
      | true =>
        show Within b.view.window.cursor (b.view.data.messages ++ page.messages)
        by_cases hn : b.view.data.messages = []
        · rw [hn, List.nil_append]
          by_cases hp : page.messages = []
          · exact .inr hp
          · refine .inl (Nat.lt_of_not_le fun h => ho ?_)
            exact ⟨id, page, rfl, hs, hn, hp, h⟩
        · exact within_append (hb.cursor hs.2.1) hn
  | _ => cases hs

/-- Only the text of a message is shown where a message is. -/
theorem fill_follows (h : Follows b.view.sight b.crumbs) (hs : b.Shows e) (limit : Nat) :
    Follows (b.view.sight.fill limit e) b.crumbs := by
  have elsewhere {s : Sight} {l : Level} (hl : b.view.level = l) (hn : l ≠ .reading)
      (he : s.level = b.view.level) : Follows s b.crumbs :=
    h.of_not_reading (by rw [he, hl]; exact hn)
  cases e with
  | rowsLoaded id r =>
    cases r with
    | error q => cases hs
    | ok rows => exact elsewhere rfl (not_reading_of_grouped hs.2) rfl
  | messagesLoaded id r =>
    cases r with
    | error q => cases hs
    | ok messages => exact elsewhere hs.2.1 (by decide) rfl
  | threadLoaded id r =>
    cases r with
    | error q => cases hs
    | ok messages => exact elsewhere hs.2 (by decide) rfl
  | detailLoaded id r => exact h
  | searchLoaded id append r =>
    cases r with
    | error q => cases hs
    | ok page => exact elsewhere hs.2.1 (by decide) rfl
  | _ => cases hs

theorem update_bounded (hr : Reachable b) (hb : Bounded b.scene) (ho : ¬ Overshoots b e) :
    Bounded (b.update e).1.scene := by
  rcases update_shift b e with h | ⟨hs, hv⟩
  · exact h.bounded hr.crumbs_bare hb
  · rw [hv]
    exact hb.here (fill_inRange hb.view hs ho _) (fill_follows hb.follows hs _) hb.kept

/-! ## sessions -/

theorem launch_bounded (c : Config) : Bounded (launch c).1.scene :=
  ⟨Sight.inRange_rows rfl (within_nil _) (within_zero _), fun d hd => (by cases hd),
    fun t ht => (by cases ht), trivial⟩

/-- A page that is overshot leaves the cursor past the list. -/
theorem Overshoots.out_of_range (h : Overshoots b e) : ¬ (b.update e).1.view.InRange := by
  obtain ⟨id, page, rfl, hs, hn, hp, hle⟩ := h
  have hv : (b.searchArrived id true (.ok page)).view.sight =
      { b.view.sight with messages := b.view.data.messages ++ page.messages } := by
    unfold searchArrived
    rw [if_pos (by
      rw [Bool.and_eq_true, Bool.and_eq_true, decide_eq_true_eq, Bool.not_eq_true']
      exact ⟨⟨beq_iff_eq.2 hs.1.symm, hs.2.1⟩, hs.2.2⟩)]
    rfl
  intro hr
  have hr : (b.searchArrived id true (.ok page)).view.sight.InRange := hr
  rw [hv, hn, List.nil_append] at hr
  rcases (Sight.rowWithin_list hs.2.1 _).1 hr.row with hlt | hnil
  · exact Nat.lt_irrefl _ (Nat.lt_of_lt_of_le hlt hle)
  · exact hp hnil

theorem in_range_iff (c : Config) (es : List Event) :
    (∀ before, before <+: es → (session c before).1.view.InRange) ↔
      ∀ before e after, es = before ++ e :: after → ¬ Overshoots (session c before).1 e :=
  session_iff_unbroken launch_bounded (fun _ _ hr hb ho => update_bounded hr hb ho)
    (fun _ hb => hb.view) (fun _ _ _ _ ho => ho.out_of_range) c es

/-- **In a session every place is in its list, in every state, unless and until a page is overshot;
and in every state at all, lists are indexed and sliced and lengths subtracted from within their
bounds.** -/
theorem places_in_lists (c : Config) (es : List Event) :
    ((∀ before, before <+: es → (session c before).1.view.InRange) ↔
        ∀ before e after, es = before ++ e :: after → ¬ Overshoots (session c before).1 e) ∧
      let b := (session c es).1
      (∀ delta, b.turnMessage? delta = some (b.turnMessage delta)) ∧
        b.markVisible? = some b.markVisible ∧
        (∀ forward, b.stepHit? forward = some (b.stepHit forward)) ∧
        (∀ cursor scroll page,
          windowStart? cursor scroll page = some (windowStart cursor scroll page)) ∧
        ∀ n delta size, stepIn? n delta size = some (stepIn n delta size) :=
  ⟨in_range_iff c es, turnMessage?_eq _, markVisible?_eq _, stepHit?_eq _, windowStart?_eq,
    stepIn?_eq⟩

/-- Results are searched anew while a message of them is read, and the search fails.  Two lists
further down a page more is asked for; back among the results it comes where nothing is listed, and
the cursor is still where it was. -/
theorem cursor_past_the_results :
    ¬ ∀ (c : Config) (es : List Event), (session c es).1.view.InRange := by
  intro h
  let one : Summary := { id := 1, conversation := 7 }
  let two : Summary := { id := 2, conversation := 8 }
  let es : List Event := [
    .rowsLoaded 1 (.ok [{ key := "alice@example.com" }]), .key .enter,
    .messagesLoaded 1 (.ok [one, two]), .key (.char '/'), .key (.char 'x'), .key .enter,
    .searchLoaded 1 false (.ok { messages := [one, two], total := 2 }), .key .down,
    .key (.char 's'), .key .enter, .key .escape, .searchLoaded 3 false (.error (.io "disk")),
    .key .tab, .rowsLoaded 2 (.ok [{ key := "bob@example.com" }]), .key .enter,
    .messagesLoaded 2 (.ok [one]), .key (.char '/'), .key (.char 'y'), .key .enter,
    .searchLoaded 4 false (.ok { messages := [one], total := 2 }), .key .down, .key .escape,
    .key .escape, .key .escape, .searchLoaded 5 true (.ok { messages := [two], total := 2 })]
  have hl : (session {} es).1.view.level = .list := by decide +kernel
  have hw := (h {} es).cursor hl
  have hc : (session {} es).1.view.window.cursor = 1 := by decide +kernel
  have hn : (session {} es).1.view.data.messages.length = 1 := by decide +kernel
  rcases hw with hw | hw
  · rw [hc, hn] at hw
    exact Nat.lt_irrefl 1 hw
  · rw [hw] at hn
    cases hn

end Browser
end MailBrowser
