import MailBrowser.Proofs.Browser.Notices
import MailBrowser.Proofs.Requests.Numbering

/-!
# Stale answers

An answer that does not carry the last number of its kind changes nothing, so a run is the same
with and without it.

* `Stale`             an answer with another number than the last;
* `Pruned`            a run without some of the answers that were stale when they came;
* `run_of_pruned`     it ends the same, after the same effects;
* `requests_fenced`   the numbers, the stale answers and the timers of all sessions.
-/

namespace MailBrowser

namespace Browser

def Stale (b : Browser) (e : Event) : Prop := ∃ k n, e.stamp? = some (k, n) ∧ n ≠ b.ledger.current k

theorem isCurrent_of_ne {l : Ledger} {k : LoadKind} {n : Nat} (h : n ≠ l.current k) :
    l.isCurrent k n = false := beq_false_of_ne (Ne.symm h)

theorem update_of_stale {b : Browser} {e : Event} (h : b.Stale e) : b.update e = (b, []) := by
  obtain ⟨k, n, he, hn⟩ := h
  have hc := isCurrent_of_ne hn
  cases e with
  | rowsLoaded id result =>
    cases he
    show (b.rowsArrived n result, []) = (b, [])
    rw [rowsArrived, hc]
    rfl
  | messagesLoaded id result =>
    cases he
    show (b.messagesArrived n result, []) = (b, [])
    rw [messagesArrived, hc]
    rfl
  | threadLoaded id result =>
    cases he
    show (b.threadArrived n result, []) = (b, [])
    rw [threadArrived, hc]
    rfl
  | detailLoaded id result =>
    cases he
    show (b.detailArrived n result, []) = (b, [])
    rw [detailArrived, hc]
    rfl
  | searchLoaded id append result =>
    cases he
    show (b.searchArrived n append result, []) = (b, [])
    rw [searchArrived, hc]
    rfl
  | _ => cases he

/-- The events `fs` are `es` without some that were stale when they came. -/
inductive Pruned : Browser → List Event → List Event → Prop where
  | nil (b : Browser) : Pruned b [] []
  | keep {b : Browser} (e : Event) {es fs : List Event} (h : Pruned (b.update e).1 es fs) :
      Pruned b (e :: es) (e :: fs)
  | drop {b : Browser} (e : Event) {es fs : List Event} (he : b.Stale e)
      (h : Pruned (b.update e).1 es fs) : Pruned b (e :: es) fs

theorem run_of_pruned {b : Browser} {es fs : List Event} (h : Pruned b es fs) :
    b.run fs = b.run es := by
  induction h with
  | nil b => rfl
  | keep e h ih => rw [run_cons, run_cons, ih]
  | drop e he h ih =>
    rw [run_cons, update_of_stale he]
    rw [update_of_stale he] at ih
    rw [ih]
    rfl

/-- **Every session numbers its requests 1, 2, 3 and so on within each kind, and the ledger counts
them.  An answer with another number changes nothing and asks for nothing, so runs are the same
without such answers.  A notice goes with the timer that came with it, and no other timer changes
anything.** -/
theorem requests_fenced (c : Config) (es : List Event) :
    let s := session c es
    (∀ k, (numbers k s.2).length = s.1.ledger.current k ∧
        numbers k s.2 = List.range' 1 (s.1.ledger.current k) ∧ (numbers k s.2).Nodup) ∧
      (∀ e, s.1.Stale e → s.1.update e = (s.1, [])) ∧
      (∀ fs, Pruned (launch c).1 es fs → session c fs = s) ∧
      ∀ notice g, s.1.flash = some notice →
        ((s.1.update (.flashExpired g)).1.flash = none ↔ CameWith c es notice g) ∧
        (¬ CameWith c es notice g → s.1.update (.flashExpired g) = (s.1, [])) := by
  intro s
  have hn : ∀ k, numbers k s.2 = List.range' 1 (s.1.ledger.current k) := session_numbers c es
  refine ⟨fun k => ⟨?_, hn k, ?_⟩, fun e he => update_of_stale he, ?_, ?_⟩
  · rw [hn k, List.length_range']
  · rw [hn k]
    exact List.nodup_range'
  · intro fs hp
    have h := run_of_pruned hp
    show (((launch c).1.run fs).1, (launch c).2 ++ ((launch c).1.run fs).2) = session c es
    rw [h]
    rfl
  · intro notice g hs
    refine ⟨⟨fun h => ?_, update_expired hs⟩, update_outlived hs⟩
    by_contra hg
    rw [update_outlived hs hg] at h
    have hs : s.1.flash = some notice := hs
    rw [hs] at h
    cases h

/-- A late answer to the first load, after the order has been changed, falls out of the run; the
notice of a key that found nothing to delete goes with its own timer. -/
theorem requests_fenced_after_flip :
    let es : List Event := [.key (.char 'r'), .rowsLoaded 1 (.ok []), .key (.char 'd')]
    let fs : List Event := [.key (.char 'r'), .key (.char 'd')]
    session {} fs = session {} es ∧
      ((session {} es).1.update (.flashExpired 1)).1.flash = none := by
  have h := requests_fenced {} [.key (.char 'r'), .rowsLoaded 1 (.ok []), .key (.char 'd')]
  obtain ⟨-, -, hp, hf⟩ := h
  refine ⟨hp _ (.keep _ (.drop _ ⟨.rows, 1, rfl, by decide⟩ (.keep _ (.nil _)))), ?_⟩
  refine (hf nothingMarked 1 (by decide +kernel)).1.2 ?_
  exact ⟨[.key (.char 'r'), .rowsLoaded 1 (.ok [])], .key (.char 'd'), [], rfl, by decide +kernel,
    by decide +kernel, rfl⟩

end Browser
end MailBrowser
