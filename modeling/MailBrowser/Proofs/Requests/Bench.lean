import Mathlib.Data.List.Nodup
import MailBrowser.Proofs.Requests.Fits

/-!
# Answers that come late

A bench is a browser with the effects that it waits for.  Their outcomes come in any order and at
any time, each at most once, with any result; keys and new heights come in between.

* `Bench.Open`, `Bench.Issued`   the benches of a session, and what their last step asked for;
* `Bench.Later`       a bench later on, the stack never lower than a height in between;
* `Bench.Later.run`   what came in between, which was no answer to what is waited for still;
* `answers_fit`       when an answer is what the view that it is shown in stands for.
-/

namespace MailBrowser

structure Bench where
  browser : Browser
  waiting : List Effect

namespace Bench
open Browser

def opening (c : Config) : Bench := ⟨(launch c).1, (launch c).2⟩

/-- an event, with the effects that still wait besides what it asks for -/
def after (p : Bench) (e : Event) (rest : List Effect) : Bench :=
  ⟨(p.browser.update e).1, rest ++ (p.browser.update e).2⟩

/-- what may come, and what waits no longer then -/
inductive Due (waiting : List Effect) : Event → List Effect → Prop where
  | key (k : Key) : Due waiting (.key k) waiting
  | resize (height : Nat) : Due waiting (.resize height) waiting
  | outcome {x : Effect} {e : Event} (hx : x ∈ waiting) (ho : Outcome x e) :
      Due waiting e (waiting.erase x)

inductive Open (c : Config) : Bench → Prop where
  | opening : Open c (opening c)
  | step {p : Bench} {e : Event} {rest : List Effect} (hp : Open c p) (hd : Due p.waiting e rest) :
      Open c (p.after e rest)

inductive Issued (c : Config) : Bench → Effect → Prop where
  | opening {x : Effect} (hx : x ∈ (launch c).2) : Issued c (opening c) x
  | step {p : Bench} {e : Event} {rest : List Effect} {x : Effect} (hp : Open c p)
      (hd : Due p.waiting e rest) (hx : x ∈ (p.browser.update e).2) : Issued c (p.after e rest) x

inductive Later (height : Nat) (p : Bench) : Bench → Prop where
  | here (h : height ≤ p.browser.crumbs.length) : Later height p p
  | step {q : Bench} {e : Event} {rest : List Effect} (hq : Later height p q)
      (hd : Due q.waiting e rest) (h : height ≤ (q.after e rest).browser.crumbs.length) :
      Later height p (q.after e rest)

variable {c : Config} {p q : Bench} {x : Effect} {e : Event} {rest : List Effect} {height : Nat}

theorem Open.reachable (h : Open c p) : p.browser.Reachable := by
  induction h with
  | opening => exact .launched c
  | step _ _ ih => exact ih.update _

theorem Issued.bench_open (h : Issued c p x) : Open c p := by
  cases h with
  | opening hx => exact .opening
  | step hp hd hx => exact .step hp hd

theorem Issued.asked (h : Issued c p x) (hs : x.stamp?.isSome = true) : Asked p.browser x := by
  cases h with
  | opening hx => exact launch_asked hx hs
  | step hp hd hx => exact update_asked hp.reachable hx hs

/-! ## no two requests that wait carry the same number -/

theorem Due.sublist {waiting : List Effect} (h : Due waiting e rest) : rest.Sublist waiting := by
  cases h with
  | key k => exact List.Sublist.refl _
  | resize height => exact List.Sublist.refl _
  | outcome hx ho => exact List.erase_sublist

/-- The numbers that wait differ, and the ledger has given them out. -/
structure Numbered (p : Bench) : Prop where
  nodup : (stamps p.waiting).Nodup
  le : ∀ s ∈ stamps p.waiting, s.2 ≤ p.browser.ledger.current s.1

theorem stamps_sublist {xs ys : List Effect} (h : xs.Sublist ys) : (stamps xs).Sublist (stamps ys) :=
  h.filterMap _

theorem Numbered.after (h : Numbered p) (hd : Due p.waiting e rest) : Numbered (p.after e rest) := by
  have hsub := stamps_sublist hd.sublist
  have hrest : ∀ s ∈ stamps rest, s.2 ≤ p.browser.ledger.current s.1 :=
    fun s hs => h.le s (hsub.subset hs)
  have hle : ∀ k, p.browser.ledger.current k ≤ (p.browser.update e).1.ledger.current k :=
    fun k => current_le_run p.browser [e] k
  constructor
  · show (stamps (rest ++ (p.browser.update e).2)).Nodup
    rw [stamps_append]
    rcases update_stamps p.browser e with ⟨hn, -⟩ | ⟨k, hn, -⟩
    · rw [hn, List.append_nil]
      exact h.nodup.sublist hsub
    · rw [hn, List.nodup_append]
      refine ⟨h.nodup.sublist hsub, List.nodup_singleton _, fun s hs t ht hst => ?_⟩
      have hk := hrest s hs
      rw [hst, List.mem_singleton.1 ht] at hk
      exact Nat.not_succ_le_self _ hk
  · intro s hs
    have hs : s ∈ stamps (rest ++ (p.browser.update e).2) := hs
    rw [stamps_append] at hs
    show s.2 ≤ (p.browser.update e).1.ledger.current s.1
    rcases List.mem_append.1 hs with hs | hs
    · exact Nat.le_trans (hrest s hs) (hle s.1)
    · rcases update_stamps p.browser e with ⟨hn, -⟩ | ⟨k, hn, hl⟩
      · rw [hn] at hs; cases hs
      · rw [hn] at hs
        have hk : s.2 = (p.browser.update e).1.ledger.current s.1 := by
          rw [List.mem_singleton.1 hs, hl, Ledger.current_issue_self]
        exact Nat.le_of_eq hk

theorem Open.numbered (h : Open c p) : Numbered p := by
  induction h with
  | opening =>
    refine ⟨List.nodup_singleton _, fun s hs => ?_⟩
    have hs : s ∈ [((.rows, 1) : LoadKind × Nat)] := hs
    rw [List.mem_singleton.1 hs]
    exact Nat.le_refl 1
  | step _ hd ih => exact ih.after hd

/-- What comes while a request waits is no answer to it. -/
theorem Due.stamp_ne {waiting : List Effect} (hd : Due waiting e rest)
    (hn : (stamps waiting).Nodup) (hx : x ∈ rest) (hs : x.stamp?.isSome = true) :
    e.stamp? ≠ x.stamp? := by
  obtain ⟨s, hs⟩ := Option.isSome_iff_exists.1 hs
  rw [hs]
  cases hd with
  | key k => intro h; cases h
  | resize height => intro h; cases h
  | outcome hy ho =>
    rename_i y
    rw [ho.stamp]
    intro h
    have hp : (stamps waiting).Perm (stamps (y :: waiting.erase y)) :=
      (List.perm_cons_erase hy).filterMap _
    have hc : stamps (y :: waiting.erase y) = s :: stamps (waiting.erase y) := by
      unfold stamps
      rw [List.filterMap_cons_some h]
    rw [hc] at hp
    exact (List.nodup_cons.1 (hp.nodup_iff.1 hn)).1 (stamp_mem_stamps hx hs)

/-! ## what comes while a request waits -/

theorem Later.bench_open (h : Later height p q) (hp : Open c p) : Open c q := by
  induction h with
  | here h => exact hp
  | step _ hd _ ih => exact .step ih hd

theorem Later.current_le (h : Later height p q) (k : LoadKind) :
    p.browser.ledger.current k ≤ q.browser.ledger.current k := by
  induction h with
  | here h => exact Nat.le_refl _
  | step _ hd _ ih => exact Nat.le_trans ih (current_le_run _ [_] k)

/-- A request that still waits has been waiting all along. -/
theorem Later.run (h : Later height p q) (hp : Open c p) {k : LoadKind}
    (hs : x.stamp? = some (k, p.browser.ledger.current k)) (hx : x ∈ q.waiting) :
    ∃ es, q.browser = (p.browser.run es).1 ∧ StaysAbove height p.browser es ∧
      ∀ e ∈ es, e.stamp? ≠ x.stamp? := by
  induction h with
  | here h => exact ⟨[], rfl, h, fun e he => by cases he⟩
  | step hq hd hh ih =>
    rename_i q e rest
    have hx : x ∈ rest ++ (q.browser.update e).2 := hx
    have hrest : x ∈ rest := by
      rcases List.mem_append.1 hx with hx | hx
      · exact hx
      · -- a new request has a new number
        have hm := stamp_mem_stamps hx hs
        have hle := hq.current_le k
        rcases update_stamps q.browser e with ⟨hn, -⟩ | ⟨j, hn, -⟩
        · rw [hn] at hm; cases hm
        · rw [hn, List.mem_singleton, Prod.mk.injEq] at hm
          obtain ⟨rfl, hm⟩ := hm
          omega
    obtain ⟨es, hrun, habove, hne⟩ := ih (hd.sublist.subset hrest)
    refine ⟨es ++ [e], ?_, ?_, ?_⟩
    · show (q.browser.update e).1 = _
      rw [run_concat, hrun]
    · refine habove.concat ?_
      rw [← hrun]
      exact hh
    · intro f hf
      rcases List.mem_append.1 hf with hf | hf
      · exact hne f hf
      · rw [List.mem_singleton.1 hf]
        exact hd.stamp_ne (hq.bench_open hp).numbered.nodup hrest (by rw [hs]; rfl)

/-! ## answers that are shown -/

/-- Taking in an answer does not change what the view stands for. -/
theorem stance_after (b : Browser) (ho : Outcome x e) :
    (b.update e).1.stance x = b.stance x := by
  cases ho with
  | rows id d f o r =>
    show some (b.rowsArrived id r).view.rowStance = _
    unfold rowsArrived
    split
    · dsimp only
      split <;> rfl
    · rfl
  | messages id f o r =>
    show some (Stance.messages (b.messagesArrived id r).listFilter) = _
    unfold messagesArrived
    split
    · dsimp only
      split
      · rfl
      · split <;> rfl
    · rfl
  | thread id f o r =>
    show some (Stance.thread (some (b.threadArrived id r).view.conversation)) = _
    unfold threadArrived
    split
    · dsimp only
      split <;> rfl
    · rfl
  | detail id m r =>
    show some (Stance.message (b.detailArrived id r).view.readingId?) = _
    unfold detailArrived
    split
    · dsimp only
      split <;> rfl
    · rfl
  | search id q r =>
    show some (Stance.results (b.searchArrived id q.append r).view.query
      (b.searchArrived id q.append r).search.mode (b.searchArrived id q.append r).listFilter) = _
    unfold searchArrived
    split
    · dsimp only
      split <;> rfl
    · rfl
  | _ => rfl

theorem stamp_of_shows {b : Browser} (h : b.Shows e) : e.stamp?.isSome = true := by
  cases e with
  | rowsLoaded => rfl
  | messagesLoaded => rfl
  | threadLoaded => rfl
  | detailLoaded => rfl
  | searchLoaded => rfl
  | _ => cases h

/-- **A request asks for what the view stands for that makes it.  When its answer is shown, it is
what the view on screen stands for exactly if the two views stand for the same; and while the view
that asked has not been left upwards, that is always so, but for a search whose scope or mode has
been changed.** -/
theorem answers_fit {c : Config} {asked now : Bench} {x : Effect} {e : Event} {height : Nat}
    (hi : Issued c asked x) (hl : Later height asked now) (hx : x ∈ now.waiting)
    (ho : Outcome x e) (hs : now.browser.Shows e) :
    let shown := (now.browser.update e).1
    x.asks? = asked.browser.stance x ∧
      (x.asks? = shown.stance x ↔ shown.stance x = asked.browser.stance x) ∧
      (asked.browser.crumbs.length ≤ height →
        (x.asks? = shown.stance x ↔ SameSearch asked.browser now.browser x)) := by
  intro shown
  have hshown : shown.stance x = now.browser.stance x := stance_after _ ho
  have hstamp : x.stamp?.isSome = true := by
    rw [← ho.stamp]
    exact stamp_of_shows hs
  have ha : Asked asked.browser x := hi.asked hstamp
  rw [hshown]
  refine ⟨ha.asks, ?_, fun hh => ?_⟩
  · rw [ha.asks]
    exact eq_comm
  · obtain ⟨k, hk⟩ := ha.stamp
    obtain ⟨es, hrun, habove, hne⟩ := hl.run hi.bench_open hk hx
    rw [hrun] at hs ⊢
    exact ha.fits (habove.mono hh) hne ho hs

/-- the rows of an archive with two senders -/
def twoSenders : List Row :=
  [{ key := "alice@example.com", count := 1, unique := 2 },
   { key := "carol@example.com", count := 1, unique := 2 }]

/-- A list that is asked for by a drill and comes after the cursor has been moved. -/
theorem answers_fit_in_a_list :
    let rows : Effect := .loadRows 1 .senders none (launch {}).1.groupOptions
    let p := (opening {}).after (.rowsLoaded 1 (.ok twoSenders)) ((opening {}).waiting.erase rows)
    let asked := p.after (.key .enter) p.waiting
    let now := asked.after (.key .down) asked.waiting
    let x : Effect := .loadMessages 1 asked.browser.listFilter {}
    x.asks? = (now.browser.update (.messagesLoaded 1 (.ok [{ id := 1 }]))).1.stance x := by
  intro rows p asked now x
  have hp : Open {} p := .step .opening (.outcome (by decide +kernel) (.rows ..))
  have hi : Issued {} asked x := .step hp (.key _) (by decide +kernel)
  have hl : Later 1 asked now := .step (.here (by decide +kernel)) (.key _) (by decide +kernel)
  have h := answers_fit hi hl (by decide +kernel) (.messages _ _ _ (.ok [{ id := 1 }]))
    ⟨by decide +kernel, by decide +kernel, by decide +kernel⟩
  exact (h.2.2 (by decide +kernel)).2 trivial

/-- Into a row, to other rows within it, and back twice: the rows that come late then are shown as
those of the whole archive. -/
theorem late_rows_in_another_view :
    ¬ ∀ (c : Config) (asked now : Bench) (x : Effect) (e : Event),
      Issued c asked x → Later 0 asked now → x ∈ now.waiting → Outcome x e →
      now.browser.Shows e → x.asks? = (now.browser.update e).1.stance x := by
  intro h
  let rows : Effect := .loadRows 1 .senders none (launch {}).1.groupOptions
  let p₁ := (opening {}).after (.rowsLoaded 1 (.ok twoSenders)) ((opening {}).waiting.erase rows)
  let p₂ := p₁.after (.key .enter) p₁.waiting
  let list : Effect := .loadMessages 1 p₂.browser.listFilter {}
  let p₃ := p₂.after (.messagesLoaded 1 (.ok [{ id := 1 }])) (p₂.waiting.erase list)
  let p₄ := p₃.after (.key .tab) p₃.waiting
  let p₅ := p₄.after (.key .escape) p₄.waiting
  let p₆ := p₅.after (.key .escape) p₅.waiting
  let x : Effect := .loadRows 2 .recipients (some p₄.browser.view.filter) p₄.browser.groupOptions
  have h₁ : Open {} p₁ := .step .opening (.outcome (by decide +kernel) (.rows ..))
  have h₂ : Open {} p₂ := .step h₁ (.key _)
  have h₃ : Open {} p₃ := .step h₂ (.outcome (by decide +kernel) (.messages ..))
  have hi : Issued {} p₄ x := .step h₃ (.key _) (by decide +kernel)
  have hl : Later 0 p₄ p₆ :=
    .step (.step (.here (Nat.zero_le _)) (.key _) (Nat.zero_le _)) (.key _) (Nat.zero_le _)
  have hx := h {} p₄ p₆ x
    (.rowsLoaded 2 (.ok [{ key := "bob@example.com", count := 1, unique := 1 }])) hi hl
    (by decide +kernel) (.rows ..) ⟨by decide +kernel, by decide +kernel⟩
  exact absurd hx (by decide +kernel)

end Bench
end MailBrowser
