import MailBrowser.Proofs.Browser.Ways

/-!
# The numbers of requests

A step gives out at most one number, and asks for what it has numbered.  So over a session the
requests of one kind are numbered 1, 2, 3 and so on, and the ledger counts them.

* `stamps`, `numbers`    the numbered requests among effects, the numbers of one kind;
* `update_stamps`        what a step asks for and what it writes to the ledger;
* `run_numbers`          the same for runs, `session_numbers` for sessions.
-/

namespace MailBrowser

def stamps (xs : List Effect) : List (LoadKind × Nat) := xs.filterMap Effect.stamp?

/-- the numbers of the requests of a kind, in the order they were asked -/
def numbers (k : LoadKind) (xs : List Effect) : List Nat :=
  (stamps xs).filterMap fun s => if s.1 = k then some s.2 else none

theorem stamps_append (xs ys : List Effect) : stamps (xs ++ ys) = stamps xs ++ stamps ys :=
  List.filterMap_append

theorem numbers_append (k : LoadKind) (xs ys : List Effect) :
    numbers k (xs ++ ys) = numbers k xs ++ numbers k ys := by
  rw [numbers, stamps_append, List.filterMap_append]
  rfl

theorem numbers_of_stamps_nil {xs : List Effect} (h : stamps xs = []) (k : LoadKind) :
    numbers k xs = [] := by
  rw [numbers, h]
  rfl

theorem numbers_of_stamps_single {xs : List Effect} {j : LoadKind} {n : Nat}
    (h : stamps xs = [(j, n)]) (k : LoadKind) :
    numbers k xs = if j = k then [n] else [] := by
  rw [numbers, h]
  by_cases hj : j = k <;> simp [hj]

namespace Browser

/-- Either nothing is numbered, or one request is, and it carries the number given out. -/
theorem Ending.stamps {b : Browser} {s : Step} (h : Ending b s) :
    (stamps s.2 = [] ∧ s.1.ledger = b.ledger) ∨
      ∃ k, stamps s.2 = [(k, b.ledger.current k + 1)] ∧ s.1.ledger = b.ledger.issue k := by
  cases h with
  | nothing => exact .inl ⟨rfl, rfl⟩
  | notice text => exact .inl ⟨rfl, rfl⟩
  | other x hx hn => exact .inl ⟨by simp [MailBrowser.stamps, hx], rfl⟩
  | rows => exact .inr ⟨.rows, rfl, rfl⟩
  | rowsAndStats => exact .inr ⟨.rows, rfl, rfl⟩
  | messages => exact .inr ⟨.messages, rfl, rfl⟩
  | thread => exact .inr ⟨.messages, rfl, rfl⟩
  | detail message => exact .inr ⟨.detail, rfl, rfl⟩
  | search offset append => exact .inr ⟨.search, rfl, rfl⟩

theorem update_stamps (b : Browser) (e : Event) :
    (stamps (b.update e).2 = [] ∧ (b.update e).1.ledger = b.ledger) ∨
      ∃ k, stamps (b.update e).2 = [(k, b.ledger.current k + 1)] ∧
        (b.update e).1.ledger = b.ledger.issue k := by
  obtain ⟨c, hc, hb⟩ := update_ends b e
  have h := hc.stamps
  rw [hb.ledger] at h
  exact h

/-- A step takes the ledger of a kind on by as many as it asks for. -/
theorem update_numbers (b : Browser) (e : Event) (k : LoadKind) :
    ∃ n, numbers k (b.update e).2 = List.range' (b.ledger.current k + 1) n ∧
      (b.update e).1.ledger.current k = b.ledger.current k + n := by
  rcases update_stamps b e with ⟨hs, hl⟩ | ⟨j, hs, hl⟩
  · refine ⟨0, ?_, ?_⟩
    · rw [numbers_of_stamps_nil hs, List.range'_zero]
    · rw [hl, Nat.add_zero]
  · have hn := numbers_of_stamps_single hs k
    by_cases hj : j = k
    · subst hj
      refine ⟨1, ?_, ?_⟩
      · rw [hn, if_pos rfl, List.range'_one]
      · rw [hl, Ledger.current_issue_self]
    · refine ⟨0, ?_, ?_⟩
      · rw [hn, if_neg hj, List.range'_zero]
      · rw [hl, Ledger.current_issue_of_ne _ (Ne.symm hj), Nat.add_zero]

theorem run_numbers (b : Browser) (es : List Event) (k : LoadKind) :
    ∃ n, numbers k (b.run es).2 = List.range' (b.ledger.current k + 1) n ∧
      (b.run es).1.ledger.current k = b.ledger.current k + n := by
  induction es generalizing b with
  | nil => exact ⟨0, rfl, rfl⟩
  | cons e es ih =>
    obtain ⟨m, hm, hl⟩ := update_numbers b e k
    obtain ⟨n, hn, hr⟩ := ih (b.update e).1
    refine ⟨m + n, ?_, ?_⟩
    · rw [run_cons, numbers_append, hm, hn, hl, ← List.range'_append_1]
      congr 2
      omega
    · show ((b.update e).1.run es).1.ledger.current k = _
      rw [hr, hl, Nat.add_assoc]

theorem launch_numbers (c : Config) (k : LoadKind) :
    numbers k (launch c).2 = List.range' 1 ((launch c).1.ledger.current k) := by
  cases k <;> rfl

/-- The requests of a kind are numbered from 1 on, and the ledger has the last number. -/
theorem session_numbers (c : Config) (es : List Event) (k : LoadKind) :
    numbers k (session c es).2 = List.range' 1 ((session c es).1.ledger.current k) := by
  obtain ⟨n, hn, hl⟩ := run_numbers (launch c).1 es k
  show numbers k ((launch c).2 ++ ((launch c).1.run es).2) =
    List.range' 1 (((launch c).1.run es).1.ledger.current k)
  rw [numbers_append, launch_numbers, hn, hl, ← List.range'_append_1, Nat.add_comm 1]

end Browser
end MailBrowser
