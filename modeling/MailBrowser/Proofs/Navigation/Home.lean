import Mathlib.Algebra.GroupWithZero.Nat
import MailBrowser.Proofs.Browser.Work
import MailBrowser.Proofs.Navigation.Shape
import MailBrowser.Proofs.Requests.AtRest
import MailBrowser.Proofs.Search.Leaving

/-!
# The way home

Escape, pressed often enough, leads to the rows of the archive with nothing over them.

* `Home`             the top view, without a search, a dialog or an open line;
* `View.exits`, `exits`   how many presses are left, in a view and on the whole way;
* `Escape`           all that the key does, `press_escape_cases` while no work goes on;
* `Escape.exits_lt`  every press shortens the way, `exits_le` how long it can be;
* `escape_leads_home`   so many presses lead home, and more stay there.
-/

namespace MailBrowser

/-- A search, or a text that was looked for, is dropped first, but not within rows of a drill. -/
def View.exits (v : View) : Nat :=
  match v.level with
  | .groups => if v.query.isEmpty then 0 else 1
  | .subgroups | .thread => 1
  | .list => if v.query.isEmpty then 1 else 2
  | .reading => if v.find.text.isEmpty then 1 else 2

theorem View.exits_congr {v w : View} (hl : w.level = v.level) (hq : w.query = v.query)
    (hf : w.find.text = v.find.text) : w.exits = v.exits := by
  unfold exits
  rw [hl, hq, hf]

theorem View.exits_le (v : View) : v.exits ≤ 2 := by
  unfold exits
  split
  · split <;> omega
  · omega
  · omega
  · split <;> omega
  · split <;> omega

/-- At the top there is nothing to go back to. -/
theorem View.exits_le_of_groups {v : View} (h : v.level = .groups) : v.exits ≤ 1 := by
  unfold exits
  rw [h]
  dsimp only
  split <;> omega

theorem View.exits_eq_zero_iff {v : View} : v.exits = 0 ↔ v.level = .groups ∧ v.query = "" := by
  rw [← String.isEmpty_iff]
  unfold exits
  split <;> rename_i hl <;> simp [hl]
  · split <;> simp
  · split <;> simp

/-- A list or rows are no further from home without their query, and nearer but within a drill. -/
theorem View.exits_of_searched {v w : View} (hl : w.level = v.level)
    (hv : v.level.isListed = true) (hq : w.query = "") :
    w.exits ≤ v.exits ∧
      (v.query.isEmpty = false → v.level ≠ .subgroups → w.exits < v.exits) := by
  have hw : w.query.isEmpty = true := by rw [hq]; rfl
  unfold exits
  rw [hl, hw]
  cases h : v.level with
  | groups => cases v.query.isEmpty <;> simp
  | subgroups => simp
  | list => cases v.query.isEmpty <;> simp
  | reading => rw [h] at hv; cases hv
  | thread => rw [h] at hv; cases hv

namespace Browser

structure Home (b : Browser) : Prop where
  level : b.view.level = .groups
  crumbs : b.crumbs = []
  dialog : b.dialog = none
  line : b.search.active = false
  find : b.view.find.input = none
  query : b.view.query = ""

/-- what lies over the view and takes its keys: a dialog, an open line -/
def lids (b : Browser) : Nat :=
  b.dialog.isSome.toNat + (b.search.active || b.view.find.input.isSome).toNat

def exits (b : Browser) : Nat := b.lids + b.view.exits + (b.crumbs.map fun c => c.view.exits).sum

variable {b : Browser} {s : Step}

theorem lids_eq_zero_iff :
    b.lids = 0 ↔ b.dialog = none ∧ b.search.active = false ∧ b.view.find.input = none := by
  unfold lids
  cases b.dialog <;> cases b.search.active <;> cases b.view.find.input <;> simp

/-! ## the length of the way -/

theorem Shaped.exits_le {v : View} {cs : List Crumb} (h : Shaped v cs) :
    v.exits + (cs.map fun c => c.view.exits).sum ≤ 2 * cs.length + 1 := by
  induction cs generalizing v with
  | nil => exact View.exits_le_of_groups h.2
  | cons crumb rest ih =>
    have hv := v.exits_le
    have hrest := ih h.2.2
    rw [List.map_cons, List.sum_cons, List.length_cons]
    omega

theorem exits_le (hb : b.Reachable) : b.exits ≤ 2 * b.crumbs.length + 3 := by
  have hs : Shaped b.view b.crumbs := hb.shaped
  have hv := hs.exits_le
  have hd : b.dialog.isSome.toNat ≤ 1 := Bool.toNat_le _
  have hl : (b.search.active || b.view.find.input.isSome).toNat ≤ 1 := Bool.toNat_le _
  unfold exits lids
  omega

/-- a press that takes up no crumb -/
theorem exits_lt_of_crumbs {c : Browser} (hc : c.crumbs = b.crumbs)
    (h : c.lids + c.view.exits < b.lids + b.view.exits) : c.exits < b.exits := by
  unfold exits
  rw [hc]
  omega

theorem home_of_exits (hb : b.Reachable) (h : b.exits = 0) : b.Home := by
  unfold exits at h
  have hs : Shaped b.view b.crumbs := hb.shaped
  obtain ⟨hd, ha, hf⟩ := lids_eq_zero_iff.1 (by omega : b.lids = 0)
  obtain ⟨hl, hq⟩ := View.exits_eq_zero_iff.1 (by omega : b.view.exits = 0)
  exact ⟨hl, hs.groups_iff.1 hl, hd, ha, hf, hq⟩

theorem Home.exits (h : b.Home) : b.exits = 0 := by
  unfold Browser.exits
  rw [lids_eq_zero_iff.2 ⟨h.dialog, h.line, h.find⟩, View.exits_eq_zero_iff.2 ⟨h.level, h.query⟩,
    h.crumbs]
  rfl

/-! ## what the key does -/

inductive Escape (b : Browser) : Step → Prop where
  | shut (hd : b.dialog.isSome = true) : Escape b { b with dialog := none }.still
  | line (hd : b.dialog = none) (hl : b.view.level.isListed = true)
      (h : b.search.active = true ∨ b.search.active = false ∧ b.view.query.isEmpty = false ∧
        b.view.level ≠ .subgroups) : Escape b b.cancelSearch
  | shutFind (ha : b.search.active = false) (hf : b.view.find.input.isSome = true) :
      Escape b (b.withFindInput none).still
  | dropFind (hl : b.view.level = .reading) (ht : b.view.find.text.isEmpty = false) :
      Escape b { b with view := b.view.clearFind }.still
  | back (hf : b.Free) (hl : b.view.level ≠ .groups) : Escape b b.goBack
  | home (h : b.Home) : Escape b b.still

theorem pressInDialog_escape (b : Browser) (d : Dialog) :
    b.pressInDialog d .escape = { b with dialog := none }.still := by
  cases d <;> rfl

theorem Free.escape (hf : b.Free) (hs : Shaped b.view b.crumbs) : Escape b (b.press .escape) := by
  rw [press_of_free hf, if_neg (by decide)]
  show Escape b (b.pressInLevel .escape)
  unfold pressInLevel
  split
  · rename_i hl
    show Escape b (if b.view.level = .subgroups then _ else if _ then _ else _)
    rw [if_neg (by rw [hl]; decide)]
    split
    · rename_i hq
      exact .home ⟨hl, hs.groups_iff.1 hl, hf.noDialog, hf.noLine, hf.noFind,
        String.isEmpty_iff.1 hq⟩
    · rename_i hq
      exact .line hf.noDialog (by rw [hl]; rfl)
        (.inr ⟨hf.noLine, by simpa using hq, by rw [hl]; decide⟩)
  · rename_i hl
    show Escape b (if b.view.level = .subgroups then _ else _)
    rw [if_pos hl]
    exact .back hf (by rw [hl]; decide)
  · rename_i hl
    show Escape b (if b.view.query.isEmpty then _ else _)
    split
    · exact .back hf (by rw [hl]; decide)
    · rename_i hq
      exact .line hf.noDialog (by rw [hl]; rfl)
        (.inr ⟨hf.noLine, by simpa using hq, by rw [hl]; decide⟩)
  · rename_i hl
    show Escape b (if b.view.find.text.isEmpty then _ else _)
    split
    · exact .back hf (by rw [hl]; decide)
    · rename_i ht
      exact .dropFind hl (by simpa using ht)
  · rename_i hl
    exact .back hf (by rw [hl]; decide)

theorem line_isListed (hb : b.Reachable) (ha : b.search.active = true) :
    b.view.level.isListed = true := by
  obtain ⟨c, es, rfl⟩ := hb
  exact (session_searchDue c es).line ha

theorem press_escape_cases (hb : b.Reachable) (hi : b.busy = none) :
    Escape b (b.press .escape) := by
  cases hd : b.dialog with
  | some d =>
    have hp : b.press .escape = b.pressInDialog d .escape := by
      unfold press
      rw [hi, hd]
      rfl
    rw [hp, pressInDialog_escape]
    exact .shut (by rw [hd]; rfl)
  | none =>
    cases ha : b.search.active with
    | true =>
      rw [press_of_line hi hd ha, if_neg (by decide)]
      exact .line hd (line_isListed hb ha) (.inl ha)
    | false =>
      cases hf : b.view.find.input with
      | some input =>
        have hp : b.press .escape = (b.pressInFind input .escape).still := by
          unfold press
          rw [hi, hd, ha, hf]
          rfl
        rw [hp]
        exact .shutFind ha (by rw [hf]; rfl)
      | none => exact (Free.mk hi hd ha hf).escape hb.shaped

/-! ## every press counts -/

theorem Escape.busy (h : Escape b s) : s.1.busy = b.busy := by
  cases h with
  | line => exact (cancelSearch_plain b).busy
  | back => exact (goBack_plain b).busy
  | _ => rfl

theorem exits_resume (b : Browser) (crumb : Crumb) (rest : List Crumb) :
    (b.resume crumb rest).view.exits = crumb.view.exits := by
  refine View.exits_congr (level_resume b crumb rest) (query_resume b crumb rest) ?_
  show (resumeAfter b.view crumb.restore b.pageSize).find.text = _
  unfold resumeAfter
  split <;> rfl

/-- What is left of the way after a step back is what lay below the view. -/
theorem goBack_exits (hb : b.Reachable) (hf : b.Free) {crumb : Crumb} {rest : List Crumb}
    (hc : b.crumbs = crumb :: rest) :
    b.goBack.1.exits = (b.crumbs.map fun c => c.view.exits).sum := by
  have hshut : FindShut b.scene := hb.findShut
  have hnone : crumb.view.find.input = none := hshut.2 crumb (by
    show crumb ∈ b.crumbs
    rw [hc]
    exact List.mem_cons_self)
  have hresume : (b.resume crumb rest).lids = 0 := by
    refine lids_eq_zero_iff.2 ⟨hf.noDialog, rfl, Eq.trans ?_ hnone⟩
    show (resumeAfter b.view crumb.restore b.pageSize).find.input = _
    unfold resumeAfter
    split <;> rfl
  have hplain := goBack_plain b
  have hview : b.goBack.1.view = (b.resume crumb rest).view := by
    rw [goBack_eq hc]
    split
    · rfl
    · exact reload_view _
  have hactive : b.goBack.1.search.active = false := by
    rw [goBack_eq hc]
    split
    · rfl
    · exact (reload_samePlace _).active
  have hlids : b.goBack.1.lids = 0 := by
    refine lids_eq_zero_iff.2 ⟨hplain.dialog.trans hf.noDialog, hactive, ?_⟩
    rw [hview]
    exact (lids_eq_zero_iff.1 hresume).2.2
  unfold exits
  rw [hlids, hview, exits_resume, goBack_crumbs hc, hc, List.map_cons, List.sum_cons, Nat.zero_add]

/-- Closing the line or dropping a search leaves no query behind. -/
theorem cancelSearch_exits (hb : b.Reachable) (hd : b.dialog = none)
    (hl : b.view.level.isListed = true)
    (h : b.search.active = true ∨ b.search.active = false ∧ b.view.query.isEmpty = false ∧
      b.view.level ≠ .subgroups) : b.cancelSearch.1.exits < b.exits := by
  have hplain := cancelSearch_plain b
  have hlevel : b.cancelSearch.1.view.level = b.view.level :=
    View.of_outline View.level (fun _ => rfl) (cancelSearch_outline b)
  obtain ⟨hle, hlt⟩ := View.exits_of_searched hlevel hl (cancelSearch_silences b).1
  have hfind : b.cancelSearch.1.view.find.input = none := by
    have hshut : FindShut b.cancelSearch.1.scene :=
      (cancelSearch_shift (b := b)).findShut hb.findShut
    refine hshut.1 fun hr => ?_
    have hr : b.cancelSearch.1.view.level = .reading := hr
    rw [← hlevel, hr] at hl
    cases hl
  have hlids : b.cancelSearch.1.lids = 0 :=
    lids_eq_zero_iff.2 ⟨hplain.dialog.trans hd, cancelSearch_closes b, hfind⟩
  refine exits_lt_of_crumbs (cancelSearch_crumbs b) ?_
  rw [hlids]
  rcases h with ha | ⟨-, hq, hs⟩
  · have hopen : b.lids ≠ 0 := by
      intro h0
      rw [(lids_eq_zero_iff.1 h0).2.1] at ha
      cases ha
    omega
  · have := hlt hq hs
    omega

theorem Escape.exits_lt (h : Escape b s) (hb : b.Reachable) (hn : ¬ b.Home) :
    s.1.exits < b.exits := by
  cases h with
  | shut hd =>
    refine exits_lt_of_crumbs (c := { b with dialog := none }) rfl (Nat.add_lt_add_right ?_ _)
    unfold lids
    rw [hd]
    exact Nat.add_lt_add_right Nat.zero_lt_one _
  | line hd hl h => exact cancelSearch_exits hb hd hl h
  | shutFind ha hf =>
    refine exits_lt_of_crumbs (c := b.withFindInput none) rfl ?_
    have hview : (b.withFindInput none).view.exits = b.view.exits := View.exits_congr rfl rfl rfl
    rw [hview]
    refine Nat.add_lt_add_right ?_ _
    show b.dialog.isSome.toNat + (b.search.active || false).toNat < b.lids
    unfold lids
    rw [ha, hf]
    exact Nat.add_lt_add_left Nat.zero_lt_one _
  | dropFind hl ht =>
    refine exits_lt_of_crumbs (c := { b with view := b.view.clearFind }) rfl ?_
    refine Nat.add_lt_add_of_le_of_lt ?_ ?_
    · show b.dialog.isSome.toNat + (b.search.active || false).toNat ≤ b.lids
      unfold lids
      cases b.search.active <;> cases b.view.find.input <;> simp
    · have hafter : b.view.clearFind.exits = 1 := by
        unfold View.exits
        rw [show b.view.clearFind.level = .reading from hl]
        rfl
      have hbefore : b.view.exits = 2 := by
        unfold View.exits
        rw [hl]
        dsimp only
        rw [ht]
        rfl
      show b.view.clearFind.exits < b.view.exits
      omega
  | back hf hl =>
    have hs : Shaped b.view b.crumbs := hb.shaped
    obtain ⟨crumb, rest, hc⟩ := List.exists_cons_of_ne_nil fun h => hl (hs.groups_iff.2 h)
    rw [goBack_exits hb hf hc]
    have hview : b.view.exits ≠ 0 := fun h => hl (View.exits_eq_zero_iff.1 h).1
    unfold exits
    omega
  | home h => exact absurd h hn

theorem Home.press_escape (h : b.Home) : b.press .escape = b.still := by
  unfold press
  rw [h.dialog, h.line, h.find]
  split
  · rename_i hk
    cases hk
  · split
    · rfl
    · show b.pressInLevel .escape = b.still
      unfold pressInLevel
      rw [h.level]
      show (if b.view.level = .subgroups then _ else if b.view.query.isEmpty then _ else _) = _
      rw [if_neg (by rw [h.level]; decide), if_pos (by rw [h.query]; rfl)]

/-- one press for each step of the way that is left, and any number more -/
theorem home_of_escapes (hb : b.Reachable) (hi : b.busy = none) {k : Nat} (hk : b.exits ≤ k) :
    (b.run (List.replicate k (.key .escape))).1.Home := by
  induction k generalizing b with
  | zero => exact home_of_exits hb (Nat.le_zero.1 hk)
  | succ k ih =>
    have hstep := press_escape_cases hb hi
    rw [List.replicate_succ, run_cons]
    refine ih (hb.update _) (hstep.busy.trans hi) ?_
    by_cases hn : b.Home
    · show (b.press .escape).1.exits ≤ k
      rw [hn.press_escape]
      exact Nat.le_trans (Nat.le_of_eq hn.exits) (Nat.zero_le k)
    · exact Nat.le_of_lt_succ (Nat.lt_of_lt_of_le (hstep.exits_lt hb hn) hk)

/-- **From wherever no work goes on, escape leads home**, in two presses for each crumb and three
more, and further presses stay there. -/
theorem escape_leads_home (hb : b.Reachable) (hi : b.busy = none) {k : Nat}
    (hk : 2 * b.crumbs.length + 3 ≤ k) : (b.run (List.replicate k (.key .escape))).1.Home :=
  home_of_escapes hb hi (Nat.le_trans (exits_le hb) hk)

/-- A search of the rows and one of the list below a message, a text that is looked for in it with
the find line open again, and a batch to be confirmed over all that: no press can be spared. -/
theorem escape_leads_home_from_a_message :
    let b := (session {} [.key (.char '/'), .key (.char 'a'), .key .enter,
      .rowsLoaded 2 (.ok [{ key := "alice@example.com" }]), .key .enter,
      .messagesLoaded 1 (.ok [{ id := 1 }]), .key (.char '/'), .key (.char 'b'), .key .enter,
      .searchLoaded 1 false (.ok { messages := [{ id := 1 }], total := 1 }), .key .enter,
      .key (.char '/'), .key (.char 'c'), .key .enter, .key (.char '/'),
      .manifestBuilt (.ok { manifest := default })]).1
    b.busy = none ∧ b.crumbs.length = 2 ∧
      (b.run (List.replicate 7 (.key .escape))).1.Home ∧
      ¬ (b.run (List.replicate 6 (.key .escape))).1.Home := by
  intro b
  have hb : b.Reachable := ⟨{}, _, rfl⟩
  have hi : b.busy = none := by decide +kernel
  have hn : b.crumbs.length = 2 := by decide +kernel
  refine ⟨hi, hn, escape_leads_home hb hi (by rw [hn]), fun h => ?_⟩
  exact absurd h.query (by decide +kernel)

end Browser
end MailBrowser
