import MailBrowser.Browser.Update

/-!
# Runs

A run is a browser that takes one event after the other.  Nothing is asked of the events: answers
may come that nobody waits for, twice or never.

* `Browser.run`         the browser after some events, and all it asked for on the way;
* `Browser.launch`      a browser after its first loads, under some settings;
* `Browser.session`     a launch and the run after it;
* `Browser.Reachable`   the browsers of all sessions, `Reachable.induct` what holds of all of them;
* `Browser.session_iff_unbroken`   what holds throughout the sessions that have no step of a kind.
-/

namespace MailBrowser
namespace Browser

def run (b : Browser) : List Event → Step
  | [] => (b, [])
  | e :: es =>
    let next := b.update e
    let last := next.1.run es
    (last.1, next.2 ++ last.2)

theorem run_nil (b : Browser) : b.run [] = (b, []) := rfl

theorem run_cons (b : Browser) (e : Event) (es : List Event) :
    b.run (e :: es) = (((b.update e).1.run es).1, (b.update e).2 ++ ((b.update e).1.run es).2) :=
  rfl

theorem run_append (b : Browser) (es fs : List Event) :
    b.run (es ++ fs) = (((b.run es).1.run fs).1, (b.run es).2 ++ ((b.run es).1.run fs).2) := by
  induction es generalizing b with
  | nil => rfl
  | cons e es ih =>
    rw [List.cons_append, run_cons, ih, run_cons]
    simp only [List.append_assoc]

theorem run_concat (b : Browser) (es : List Event) (e : Event) :
    (b.run (es ++ [e])).1 = ((b.run es).1.update e).1 := by
  rw [run_append]
  rfl

/-- what a step keeps is kept by a run -/
theorem run_keeps {P : Browser → Prop} (hP : ∀ b e, P b → P (b.update e).1) {b : Browser}
    (hb : P b) (es : List Event) : P (b.run es).1 := by
  induction es generalizing b with
  | nil => exact hb
  | cons e es ih => exact ih (hP b e hb)

def launch (c : Config) : Step := (new c.tuning).start

def session (c : Config) (es : List Event) : Step :=
  (((launch c).1.run es).1, (launch c).2 ++ ((launch c).1.run es).2)

theorem session_append (c : Config) (es fs : List Event) :
    (session c (es ++ fs)).1 = ((session c es).1.run fs).1 := by
  show ((launch c).1.run (es ++ fs)).1 = _
  rw [run_append]
  rfl

/-- a session on both sides of one of its events -/
theorem session_split (c : Config) (before : List Event) (e : Event) (after : List Event) :
    (session c (before ++ e :: after)).1 = (((session c before).1.update e).1.run after).1 :=
  session_append c before (e :: after)

theorem session_concat (c : Config) (es : List Event) (e : Event) :
    (session c (es ++ [e])).1 = ((session c es).1.update e).1 :=
  run_concat _ _ _

theorem session_effects (c : Config) (es : List Event) (e : Event) :
    (session c (es ++ [e])).2 = (session c es).2 ++ ((session c es).1.update e).2 := by
  show (launch c).2 ++ ((launch c).1.run (es ++ [e])).2 = _
  rw [run_append, ← List.append_assoc]
  show _ ++ (((launch c).1.run es).1.run [e]).2 = _
  rw [run_cons, run_nil, List.append_nil]
  rfl

def Reachable (b : Browser) : Prop := ∃ c es, (session c es).1 = b

namespace Reachable

theorem launched (c : Config) : Reachable (launch c).1 := ⟨c, [], rfl⟩

theorem run {b : Browser} (h : Reachable b) (es : List Event) : Reachable (b.run es).1 := by
  obtain ⟨c, fs, rfl⟩ := h
  refine ⟨c, fs ++ es, ?_⟩
  show ((launch c).1.run (fs ++ es)).1 = _
  rw [run_append]
  rfl

theorem update {b : Browser} (h : Reachable b) (e : Event) : Reachable (b.update e).1 :=
  h.run [e]

/-- what holds after every launch and is kept by every step holds always -/
theorem induct {P : Browser → Prop} (hl : ∀ c, P (launch c).1)
    (hP : ∀ b e, P b → P (b.update e).1) {b : Browser} (h : Reachable b) : P b := by
  obtain ⟨c, es, rfl⟩ := h
  exact run_keeps hP (hl c) es

end Reachable

/-! ## what some steps break -/

section
variable {P Q : Browser → Prop} {Breaks : Browser → Event → Prop}

theorem run_unbroken (hQ : ∀ b e, Reachable b → Q b → ¬ Breaks b e → Q (b.update e).1) {b : Browser}
    (hr : Reachable b) (hb : Q b) {es : List Event}
    (h : ∀ before e after, es = before ++ e :: after → ¬ Breaks (b.run before).1 e) :
    Q (b.run es).1 := by
  induction es generalizing b with
  | nil => exact hb
  | cons e es ih =>
    refine ih (hr.update e) (hQ b e hr hb (h [] e es rfl)) fun before f after hes => ?_
    exact h (e :: before) f after (by rw [hes]; rfl)

/-- **`P` holds in every state of a session exactly if no step of it breaks `P`.**  `Q` is an
invariant for which the steps that do not break `P` are enough. -/
theorem session_iff_unbroken (hl : ∀ c, Q (launch c).1)
    (hQ : ∀ b e, Reachable b → Q b → ¬ Breaks b e → Q (b.update e).1) (hP : ∀ b, Q b → P b)
    (hB : ∀ b e, Reachable b → P b → Breaks b e → ¬ P (b.update e).1) (c : Config)
    (es : List Event) :
    (∀ before, before <+: es → P (session c before).1) ↔
      ∀ before e after, es = before ++ e :: after → ¬ Breaks (session c before).1 e := by
  constructor
  · rintro h before e after rfl hb
    refine hB _ e ⟨c, before, rfl⟩ (h before (List.prefix_append _ _)) hb ?_
    rw [← session_concat]
    exact h _ ⟨after, by rw [List.append_assoc]; rfl⟩
  · rintro h before ⟨after, rfl⟩
    refine hP _ (run_unbroken hQ (.launched c) (hl c) fun start e rest hes => ?_)
    exact h start e (rest ++ after) (by rw [hes, List.append_assoc]; rfl)

end

end Browser
end MailBrowser
