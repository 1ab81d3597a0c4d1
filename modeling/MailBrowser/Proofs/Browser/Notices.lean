import Mathlib.Data.List.Induction
import MailBrowser.Proofs.Browser.Ways

/-!
# Notices

Every notice comes with a timer of its own, and a timer only counts while no notice came after.

* `timers`         the generations of the timers among effects;
* `CameWith`       the notice on screen came in a step that asked for a timer, none came later;
* `cameWith_iff`   that timer is the one of the generation that the browser is in;
* `update_expired`    what a timer does to the notice on screen, `update_outlived` another's.
-/

namespace MailBrowser

def Effect.timer? : Effect → Option Nat
  | .expireFlash _ generation => some generation
  | _ => none

def timers (xs : List Effect) : List Nat := xs.filterMap Effect.timer?

theorem timers_append (xs ys : List Effect) : timers (xs ++ ys) = timers xs ++ timers ys :=
  List.filterMap_append

theorem Effect.timer_of_not_expiry {x : Effect} (h : x.isExpiry = false) : x.timer? = none := by
  cases x with
  | expireFlash delay generation => cases h
  | _ => rfl

namespace Browser

/-! ## steps -/

/-- Either a step has no timer and shows nothing new, or it shows a notice of its generation. -/
theorem update_timers (b : Browser) (e : Event) :
    (timers (b.update e).2 = [] ∧ (b.update e).1.flashGeneration = b.flashGeneration ∧
        ((b.update e).1.flash = b.flash ∨ (b.update e).1.flash = none)) ∨
      (timers (b.update e).2 = [b.flashGeneration + 1] ∧
        (b.update e).1.flashGeneration = b.flashGeneration + 1) := by
  obtain ⟨c, hc, hb⟩ := update_ends b e
  have hg := hb.generation
  have hf := hb.flash
  generalize b.update e = s at hc
  cases hc with
  | notice text => exact .inr ⟨by rw [← hg]; rfl, by rw [← hg]; rfl⟩
  | other x hx hn => exact .inl ⟨by simp [timers, Effect.timer_of_not_expiry hn], hg, hf⟩
  | _ => exact .inl ⟨rfl, hg, hf⟩

/-- The generation never falls, and stays only where no timer is asked for. -/
theorem run_timers (b : Browser) (es : List Event) :
    b.flashGeneration ≤ (b.run es).1.flashGeneration ∧
      ((b.run es).1.flashGeneration = b.flashGeneration ↔ timers (b.run es).2 = []) := by
  induction es generalizing b with
  | nil => exact ⟨Nat.le_refl _, by simp [run_nil, timers]⟩
  | cons e es ih =>
    obtain ⟨hle, heq⟩ := ih (b.update e).1
    rw [run_cons]
    dsimp only
    rw [timers_append]
    rcases update_timers b e with ⟨ht, hg, -⟩ | ⟨ht, hg⟩
    · rw [hg] at hle heq
      rw [ht, List.nil_append]
      exact ⟨hle, heq⟩
    · rw [hg] at hle
      rw [ht]
      refine ⟨by omega, ?_⟩
      constructor
      · intro h
        omega
      · intro h
        simp at h

/-! ## sessions -/

/-- The notice on screen came in a step that asked for the timer `g`, and none came later. -/
def CameWith (c : Config) (es : List Event) (notice : String) (g : Nat) : Prop :=
  ∃ before e after, es = before ++ e :: after ∧
    let shown := (session c before).1.update e
    shown.1.flash = some notice ∧ g ∈ timers shown.2 ∧ timers (shown.1.run after).2 = []

theorem flash_launch (c : Config) : (launch c).1.flash = none := rfl

/-- Every notice on screen came with the timer of the present generation. -/
theorem cameWith_of_shown {c : Config} {es : List Event} {notice : String}
    (h : (session c es).1.flash = some notice) :
    CameWith c es notice (session c es).1.flashGeneration := by
  induction es using List.reverseRecOn with
  | nil => rw [show (session c []).1.flash = none from flash_launch c] at h; cases h
  | append_singleton es e ih =>
    have hc := session_concat c es e
    rcases update_timers (session c es).1 e with ⟨ht, hg, hf⟩ | ⟨ht, hg⟩
    · -- the notice was there before
      rw [hc] at h
      have hb : (session c es).1.flash = some notice := by
        rcases hf with hf | hf
        · rw [← hf]; exact h
        · rw [hf] at h; cases h
      obtain ⟨before, e', after, rfl, hs, hm, ha⟩ := ih hb
      refine ⟨before, e', after ++ [e], by simp, hs, ?_, ?_⟩
      · rw [hc, hg]; exact hm
      · have hr : (session c (before ++ e' :: after)).1 =
            (((session c before).1.update e').1.run after).1 := session_append c before (e' :: after)
        rw [hr] at ht
        rw [run_append, timers_append, ha, List.nil_append]
        simpa [run_cons, run_nil] using ht
    · refine ⟨es, e, [], rfl, ?_, ?_, rfl⟩
      · rw [← hc]; exact h
      · rw [ht, hc, hg]; exact List.mem_singleton.2 rfl

theorem cameWith_iff {c : Config} {es : List Event} {notice : String} {g : Nat}
    (h : (session c es).1.flash = some notice) :
    CameWith c es notice g ↔ g = (session c es).1.flashGeneration := by
  constructor
  · rintro ⟨before, e, after, rfl, -, hm, ha⟩
    have hr : (session c (before ++ e :: after)).1 =
        (((session c before).1.update e).1.run after).1 := session_append c before (e :: after)
    have hg := (run_timers ((session c before).1.update e).1 after).2.2 ha
    rw [hr, hg]
    rcases update_timers (session c before).1 e with ⟨ht, -⟩ | ⟨ht, hn⟩
    · rw [ht] at hm; cases hm
    · rw [ht] at hm
      rw [hn]
      exact List.mem_singleton.1 hm
  · rintro rfl
    exact cameWith_of_shown h

theorem update_expired {c : Config} {es : List Event} {notice : String} {g : Nat}
    (h : (session c es).1.flash = some notice) (hg : CameWith c es notice g) :
    ((session c es).1.update (.flashExpired g)).1.flash = none := by
  have hg := (cameWith_iff h).1 hg
  show ((session c es).1.expireFlash g).flash = none
  rw [expireFlash, if_pos hg]

theorem update_outlived {c : Config} {es : List Event} {notice : String} {g : Nat}
    (h : (session c es).1.flash = some notice) (hg : ¬ CameWith c es notice g) :
    (session c es).1.update (.flashExpired g) = ((session c es).1, []) := by
  rw [cameWith_iff h] at hg
  show (((session c es).1.expireFlash g), []) = _
  rw [expireFlash, if_neg hg]

end Browser
end MailBrowser
