import MailBrowser.Proofs.Navigation.Stack

/-!
# Excursions

Whatever happens after a view was left for a deeper one, the key that comes back to it finds it as
it was.

* `press_leave`       escape and backspace go back, or drop nothing from the stack;
* `broughtBack`       the view that was left, its cursor on the message read last;
* `excursion_exact`   the way down, anything above, and the way back.
-/

namespace MailBrowser
namespace Browser

variable {b : Browser} {k : Key}

/-! ## the keys that go back -/

theorem pressInDialog_leave (hk : k = .escape ∨ k = .backspace) (d : Dialog) :
    (b.pressInDialog d k).1.crumbs = b.crumbs := by
  rcases hk with rfl | rfl
  · cases d <;> rfl
  · cases d <;> rfl

theorem clearSearch_crumbs (b : Browser) : b.clearSearch.1.crumbs = b.crumbs := by
  unfold clearSearch
  dsimp only
  split <;> rfl

theorem cancelSearch_crumbs (b : Browser) : b.cancelSearch.1.crumbs = b.crumbs := by
  unfold cancelSearch
  dsimp only
  split
  · exact clearSearch_crumbs _
  · split
    · rfl
    · split <;> rfl

theorem pressInSearch_leave (hk : k = .escape ∨ k = .backspace) :
    (b.pressInSearch k).1.crumbs = b.crumbs := by
  rcases hk with rfl | rfl
  · exact cancelSearch_crumbs b
  · rfl

theorem pressOnScreen_leave (hk : k = .escape ∨ k = .backspace) :
    b.pressOnScreen k = b.goBack ∨ (b.pressOnScreen k).1.crumbs = b.crumbs := by
  have hm : b.pressOnScreen k = b.pressInLevel k := by rcases hk with rfl | rfl <;> rfl
  rw [hm]
  unfold pressInLevel
  split
  · rename_i hl
    rcases hk with rfl | rfl
    · refine .inr ?_
      show (if b.view.level = .subgroups then _ else _ : Step).1.crumbs = _
      rw [if_neg (by rw [hl]; decide)]
      split
      · rfl
      · exact cancelSearch_crumbs b
    · exact .inr rfl
  · rename_i hl
    rcases hk with rfl | rfl
    · exact .inl (if_pos hl)
    · exact .inr rfl
  · rcases hk with rfl | rfl
    · show (if b.view.query.isEmpty then _ else _ : Step) = _ ∨ (if _ then _ else _ : Step).1.crumbs = _
      split
      · exact .inl rfl
      · exact .inr (cancelSearch_crumbs b)
    · exact .inr rfl
  · rcases hk with rfl | rfl
    · show (if b.view.find.text.isEmpty then _ else _ : Step) = _ ∨
        (if _ then _ else _ : Step).1.crumbs = _
      split
      · exact .inl rfl
      · exact .inr rfl
    · exact .inl rfl
  · rcases hk with rfl | rfl
    · exact .inl rfl
    · exact .inl rfl

/-- Escape and backspace either go back or leave the stack alone. -/
theorem press_leave (hk : k = .escape ∨ k = .backspace) :
    b.press k = b.goBack ∨ (b.press k).1.crumbs = b.crumbs := by
  have hc : k ≠ .ctrl 'c' := by rcases hk with rfl | rfl <;> decide
  unfold press
  rw [if_neg hc]
  split
  · exact .inr rfl
  · split
    · exact .inr (pressInDialog_leave hk _)
    · split
      · exact .inr (pressInSearch_leave hk)
      · split
        · exact .inr (pressInFind_quiet b _ k).crumbs
        · exact pressOnScreen_leave hk

/-! ## there and back -/

/-- the view that was left, with its cursor on the message that was read last above it -/
def broughtBack (left v : View) (page : Nat) : View :=
  if left.level = .reading then
    if left.readingFromThread then v.moveToInThread left.readingIndex page
    else v.moveTo left.readingIndex page
  else v

/-- Coming back follows a message to the list that it was opened from. -/
theorem resumeAfter_of_linked {left v : View} (page : Nat)
    (h : left.level = .reading → v.level = if left.readingFromThread then .thread else .list) :
    resumeAfter left v page = broughtBack left v page := by
  unfold resumeAfter broughtBack
  cases hl : left.level with
  | reading =>
    rw [if_pos rfl]
    cases hf : left.readingFromThread with
    | true =>
      have hv : v.level = .thread := by rw [h hl, hf]; rfl
      rw [hv]
      rfl
    | false =>
      have hv : v.level = .list := by rw [h hl, hf]; rfl
      rw [hv]
      rfl
  | _ => rfl

theorem broughtBack_data (left v : View) (d : Loaded) (page : Nat) :
    broughtBack left { v with data := d } page = { broughtBack left v page with data := d } := by
  unfold broughtBack
  split
  · split <;> rfl
  · rfl

/-- A key that makes the stack higher leaves a crumb of the view. -/
theorem crumbs_of_deeper {e : Event} (hb : b.Orderly)
    (h : b.crumbs.length < (b.update e).1.crumbs.length) :
    (b.update e).1.crumbs = b.crumb :: b.crumbs := by
  rcases update_crumbs hb e with hc | hc | ⟨crumb, hc⟩ | hc
  · rw [hc] at h; omega
  · exact hc
  · rw [hc, List.length_cons] at h; omega
  · rw [hc] at h; cases h

theorem broughtBack_data_eq (left v : View) (page : Nat) :
    (broughtBack left v page).data = v.data := by
  unfold broughtBack
  split
  · split <;> rfl
  · rfl

/-- what going back finds in a crumb that `s` left -/
theorem resume_leave {s q : Browser} (hl : Linked q.view (s.crumb :: s.crumbs))
    (hq : q.crumbs = s.crumb :: s.crumbs) :
    (s.loading = false ∧ s.search.loading = false →
      ∃ r : Browser, q.goBack = r.still ∧ r.crumbs = s.crumbs ∧
        r.view = broughtBack q.view s.view q.pageSize ∧
        r.search.total = s.search.total ∧
        r.search.offset = s.view.data.messages.length ∧
        (s.view.query.isEmpty = false → r.search.mode = s.search.mode)) ∧
    (¬ (s.loading = false ∧ s.search.loading = false) →
      q.goBack.1.crumbs = s.crumbs ∧
        q.goBack.1.view = { broughtBack q.view s.view q.pageSize with data := {} }) := by
  have hq' : q.crumbs = .leave s.view (!s.loading && !s.search.loading) s.search.mode
      s.search.total :: s.crumbs := hq
  have hv := hl.1
  constructor
  · rintro ⟨hw, hw'⟩
    rw [hw, hw'] at hq'
    have hg := goBack_eq hq'
    have hr : resumeAfter q.view s.view q.pageSize = broughtBack q.view s.view q.pageSize :=
      resumeAfter_of_linked q.pageSize hv
    refine ⟨_, hg, rfl, hr, rfl, ?_, fun hn => ?_⟩
    · show (resumeAfter q.view s.view q.pageSize).data.messages.length = _
      rw [data_resumeAfter]
    · show (if (resumeAfter q.view s.view q.pageSize).query.isEmpty then _ else _) = _
      rw [query_resumeAfter, if_neg (by rw [hn]; decide)]
      rfl
  · intro hw
    have hw : (!s.loading && !s.search.loading) = false := by
      cases h1 : s.loading <;> cases h2 : s.search.loading <;> simp_all
    rw [hw] at hq'
    have hg := goBack_eq hq'
    refine ⟨goBack_crumbs hq', ?_⟩
    rw [hg]
    show (q.resume _ s.crumbs).reload.1.view = _
    rw [reload_view]
    have hb := resumeAfter_of_linked (v := { s.view with data := {} }) q.pageSize hv
    rw [broughtBack_data] at hb
    exact hb

/-- **A view that is left by a key, and come back to after anything that stays above it, is as it
was, but that its cursor follows the message that was read last.  What it held is there again,
and nothing is loaded, if nothing was being loaded when it was left; else it is empty.** -/
theorem excursion_exact {s : Browser} (hs : s.Reachable) {push pop : Key} {es : List Event}
    (hd : s.crumbs.length < (s.press push).1.crumbs.length)
    (ha : StaysAbove (s.press push).1.crumbs.length (s.press push).1 es)
    (hk : pop = .escape ∨ pop = .backspace)
    (hb : (((s.press push).1.run es).1.press pop).1.crumbs.length <
      (s.press push).1.crumbs.length) :
    let q := ((s.press push).1.run es).1
    let r := q.press pop
    let v := broughtBack q.view s.view q.pageSize
    r.1.crumbs = s.crumbs ∧
      (s.loading = false ∧ s.search.loading = false →
        r.1.view = v ∧ r.1.view.data = s.view.data ∧ r.2 = [] ∧
          (s.view.query.isEmpty = false →
            r.1.search.mode = s.search.mode ∧ r.1.search.total = s.search.total ∧
              r.1.search.offset = s.view.data.messages.length)) ∧
      (¬ (s.loading = false ∧ s.search.loading = false) → r.1.view = { v with data := {} }) := by
  intro q r v
  have hp : Reachable (s.press push).1 := hs.update (.key push)
  have hq : Reachable q := hp.run es
  have hc : (s.press push).1.crumbs = s.crumb :: s.crumbs :=
    crumbs_of_deeper (e := .key push) hs.orderly hd
  have hsuf : (s.press push).1.crumbs <:+ q.crumbs :=
    suffix_of_staysAbove hp.orderly (List.suffix_refl _) ha
  -- only going back makes the stack lower here
  have hr : r = q.goBack := by
    rcases press_leave (b := q) hk with h | h
    · exact h
    · have hle := hsuf.length_le
      have hlt : (q.press pop).1.crumbs.length < (s.press push).1.crumbs.length := hb
      rw [h] at hlt
      omega
  obtain ⟨crumb, rest, hcr⟩ : ∃ crumb rest, q.crumbs = crumb :: rest := by
    refine List.exists_cons_of_ne_nil fun h => ?_
    rw [h, List.suffix_nil] at hsuf
    rw [hsuf] at hd
    cases hd
  -- so it takes up the very crumb that was left
  have hqc : q.crumbs = s.crumb :: s.crumbs := by
    rw [← hc]
    refine (hsuf.eq_of_length_le ?_).symm
    have hlt : r.1.crumbs.length < (s.press push).1.crumbs.length := hb
    rw [hr, goBack_crumbs hcr] at hlt
    rw [hcr, List.length_cons]
    omega
  have hl : Linked q.view (s.crumb :: s.crumbs) := by
    rw [← hqc]
    exact hq.linked
  obtain ⟨hkept, hlost⟩ := resume_leave hl hqc
  rw [hr]
  by_cases hw : s.loading = false ∧ s.search.loading = false
  · obtain ⟨t, ht, htc, htv, htt, hto, htm⟩ := hkept hw
    rw [ht]
    refine ⟨htc, fun _ => ⟨htv, ?_, rfl, fun hn => ⟨htm hn, htt, hto⟩⟩, fun hn => absurd hw hn⟩
    show t.view.data = _
    rw [htv, broughtBack_data_eq]
  · obtain ⟨hlc, hlv⟩ := hlost hw
    exact ⟨hlc, fun h => absurd h hw, fun _ => hlv⟩

/-- From a list of two messages into the first, on to the second, and back: the cursor is on the
second. -/
theorem excursion_exact_to_the_next_message :
    let s := (session {} [.rowsLoaded 1 (.ok [{ key := "a" }]), .key .enter,
      .messagesLoaded 1 (.ok [{ id := 1 }, { id := 2 }])]).1
    let q := ((s.press .enter).1.run [.key .right]).1
    (q.press .escape).1.view = s.view.moveTo 1 20 ∧ (q.press .escape).2 = [] := by
  intro s q
  have hs : s.Reachable := ⟨{}, _, rfl⟩
  have h := @excursion_exact s hs .enter .escape [.key .right] (by decide +kernel)
    (by decide +kernel) (.inl rfl) (by decide +kernel)
  obtain ⟨hv, -, hn, -⟩ := h.2.1 (by decide +kernel)
  refine ⟨hv.trans ?_, hn⟩
  decide +kernel

end Browser
end MailBrowser
