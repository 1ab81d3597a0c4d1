import MailBrowser.Proofs.Browser.Ways

/-!
# Order

Every browser of every session is orderly (`Reachable.orderly`): a list is kept only behind an
open search line, and the dialog for the scope stands over lists alone.  What else holds of every
browser is then proved way by way (`Reachable.induct_ways`), or, where it is a matter of the place
alone, for the few ways to change place (`Kept`).
-/

namespace MailBrowser
namespace Browser

variable {b c : Browser}

theorem Tidy.orderly (h : Tidy b c) (hl : c.view.level = b.view.level) (hb : b.Orderly) :
    c.Orderly := by
  constructor
  · intro hs
    rcases h.line with ha | hn | ⟨he, ha⟩
    · exact ha
    · rw [hn] at hs; cases hs
    · rw [he] at hs
      rw [ha]
      exact hb.line hs
  · intro hs
    obtain ⟨hd, ha⟩ := h.scope hs
    obtain ⟨hn, hv⟩ := hb.scope hd
    rw [hl]
    refine ⟨?_, hv⟩
    by_cases hc : c.search.active = true
    · rw [ha hc] at hn; cases hn
    · exact Bool.eq_false_iff.2 hc

theorem SamePlace.orderly (h : SamePlace b c) (hb : b.Orderly) : c.Orderly := by
  constructor
  · intro hs
    rw [h.snapshot] at hs
    rw [h.active]
    exact hb.line hs
  · intro hs
    rw [h.active, h.level]
    rcases h.asksScope hs with hd | hn
    · exact hb.scope hd
    · exact hn

/-- where no dialog is open and no list is kept -/
theorem orderly_of_closed (hd : b.dialog = none) (hs : b.search.snapshot = none) : b.Orderly := by
  constructor
  · intro h
    rw [hs] at h; cases h
  · intro h
    unfold asksScope at h
    rw [hd] at h; cases h

theorem Down.orderly (h : Down b c) (hb : b.Orderly) : c.Orderly := by
  refine orderly_of_closed h.dialog ?_
  rcases h.search with hs | hs
  · exact hs
  · rw [hs]
    exact hb.snapshot_none h.free.noLine

/-- The search of a view that is gone back to is closed. -/
theorem goBack_orderly {crumb : Crumb} {rest : List Crumb} (hf : b.Free)
    (h : b.crumbs = crumb :: rest) : b.goBack.1.Orderly := by
  have hr : (b.resume crumb rest).Orderly := orderly_of_closed hf.noDialog rfl
  rw [goBack_eq h]
  split
  · exact hr
  · exact (reload_samePlace _).orderly hr

theorem Way.orderly {s : Step} (h : Way b s) (hb : b.Orderly) : s.1.Orderly := by
  cases h with
  | stay h => exact h.sameScene.orderly hb
  | line h => exact h.orderly (View.of_outline View.level (fun _ => rfl) h.outline) hb
  | regroup hl h hs => exact hs.ending.samePlace.orderly (h.orderly h.level hb)
  | relist hl h => exact Ending.messages.samePlace.orderly (h.orderly h.level hb)
  | search hl h => exact (Ending.search _ _).samePlace.orderly (h.orderly h.level hb)
  | retake hl h => exact h.orderly h.level hb
  | turn m hl h hf hd hm => exact (Ending.detail m hm).samePlace.orderly (h.orderly h.level hb)
  | down h he => exact he.ending.samePlace.orderly (h.orderly hb)
  | back hf h => exact goBack_orderly hf h
  | top h hs => exact hs.ending.samePlace.orderly (orderly_of_closed h.dialog h.snapshot)
  | stray hn h => exact absurd hb hn

theorem update_orderly (hb : b.Orderly) (e : Event) : (b.update e).1.Orderly := by
  rcases update_way b e with h | ⟨k, c, -, hs, hc⟩
  · exact h.orderly hb
  · rw [hs]
    exact hc.orderly hb

theorem launch_orderly (c : Config) : (launch c).1.Orderly := orderly_of_closed rfl rfl

theorem Reachable.orderly (h : Reachable b) : b.Orderly :=
  h.induct launch_orderly fun _ e hb => update_orderly hb e

/-- what every launch has, every way keeps in order, and every answer keeps -/
theorem Reachable.induct_ways {P : Browser → Prop} (hl : ∀ c, P (launch c).1)
    (hw : ∀ b s, b.Orderly → Way b s → P b → P s.1)
    (hf : ∀ b k c, Filled b k c → P b → P c) (h : Reachable b) : P b := by
  have ho : b.Orderly ∧ P b := by
    refine h.induct (P := fun b => b.Orderly ∧ P b) (fun c => ⟨launch_orderly c, hl c⟩) ?_
    rintro b e ⟨hb, hp⟩
    refine ⟨update_orderly hb e, ?_⟩
    rcases update_way b e with h | ⟨k, c, -, hs, hc⟩
    · exact hw b _ hb h hp
    · rw [hs]
      exact hf b k c hc hp
  exact ho.2

/-- what is kept at a place and on the way to another -/
structure Kept (P : Browser → Prop) : Prop where
  launch (c : Config) : P (launch c).1
  place {b c : Browser} : SamePlace b c → P b → P c
  line {b c : Browser} : Line b c → P b → P c
  here {b c : Browser} : Here b c → P b → P c
  down {b c : Browser} {s : Step} : Down b c → Entry b c s → P b → P c
  resume {b : Browser} {crumb : Crumb} {rest : List Crumb} :
    b.crumbs = crumb :: rest → P b → P (b.resume crumb rest)
  top {b c : Browser} : Top b c → P c

theorem Kept.goBack {P : Browser → Prop} (k : Kept P) {crumb : Crumb} {rest : List Crumb}
    (h : b.crumbs = crumb :: rest) (hb : P b) : P b.goBack.1 := by
  have hr : P (b.resume crumb rest) := k.resume h hb
  rw [goBack_eq h]
  split
  · exact hr
  · exact k.place (reload_samePlace _) hr

theorem Kept.way {P : Browser → Prop} (k : Kept P) {s : Step} (h : Way b s) (ho : b.Orderly)
    (hb : P b) : P s.1 := by
  cases h with
  | stay h => exact k.place h.sameScene.toSamePlace hb
  | line h => exact k.line h hb
  | regroup hl h hs => exact k.place hs.ending.samePlace (k.here h hb)
  | relist hl h => exact k.place Ending.messages.samePlace (k.here h hb)
  | search hl h => exact k.place (Ending.search _ _).samePlace (k.here h hb)
  | retake hl h => exact k.here h hb
  | turn m hl h hf hd hm => exact k.place (Ending.detail m hm).samePlace (k.here h hb)
  | down h he => exact k.place he.ending.samePlace (k.down h he hb)
  | back hf h => exact k.goBack h hb
  | top h hs => exact k.place hs.ending.samePlace (k.top h)
  | stray hn h => exact absurd ho hn

/-- **What is kept holds of every browser of every session.** -/
theorem Kept.reachable {P : Browser → Prop} (k : Kept P) (h : Reachable b) : P b :=
  h.induct_ways k.launch (fun _ _ ho h hb => k.way h ho hb)
    fun _ _ _ h hb => k.place h.toSamePlace hb

end Browser
end MailBrowser
