import MailBrowser.Proofs.Reading.Steps

/-!
# How far a message can be scrolled

The lines of a message are counted when it arrives.  The count is kept beside the view, so it does
not come back with a message that is gone back to: another one may have been counted meanwhile, and
the screen may have got another size.

* `Fitted`       the lines of the message on screen are counted, and its last page bounds the scroll;
* `Misfits`      a step back to a message that does not fit, or a message that is shown under a
                 scroll that does not;
* `fitted_iff`   in a session a message fits in every state exactly if no step misfits.
-/

namespace MailBrowser
namespace Browser

def Fitted (b : Browser) : Prop :=
  b.view.level = .reading → ∀ d, b.view.data.detail = some d →
    b.readingLines = d.lines.length ∧ b.view.readingScroll ≤ b.readingLines - b.readingPage

inductive Misfits (b : Browser) : Event → Prop where
  /-- Going back counts nothing, and leaves the scroll as it was. -/
  | back {e : Event} {crumb : Crumb} {rest : List Crumb} {d : Detail} (hs : b.update e = b.goBack)
      (hc : b.crumbs = crumb :: rest) (hl : crumb.view.level = .reading)
      (hd : crumb.restore.data.detail = some d)
      (hm : b.readingLines ≠ d.lines.length ∨
        d.lines.length - b.readingPage < crumb.view.readingScroll) : Misfits b e
  /-- An arrival counts the lines, and leaves the scroll as it was. -/
  | shown {id : Nat} {d : Detail} (hs : b.Shows (.detailLoaded id (.ok (some d))))
      (hm : d.lines.length - b.readingPage < b.view.readingScroll) :
      Misfits b (.detailLoaded id (.ok (some d)))

variable {b c : Browser} {s : Step} {e : Event}

theorem fitted_of_sheets {level : Level} {detail : Option Detail} {find : Find} {scroll : Nat}
    {crumbs : List Crumb} {lines page : Nat}
    (h : c.sheets = ((level, detail, find, scroll), crumbs, lines, page)) :
    c.Fitted ↔ (level = .reading → ∀ d, detail = some d →
      lines = d.lines.length ∧ scroll ≤ lines - (page + 2)) := by
  simp only [sheets, View.sheet, Prod.mk.injEq] at h
  obtain ⟨⟨rfl, rfl, rfl, rfl⟩, rfl, rfl, rfl⟩ := h
  exact Iff.rfl

theorem fitted_after_back {crumb : Crumb} {rest : List Crumb} (hc : b.crumbs = crumb :: rest) :
    b.goBack.1.Fitted ↔ (crumb.view.level = .reading → ∀ d, crumb.restore.data.detail = some d →
      b.readingLines = d.lines.length ∧
        crumb.view.readingScroll ≤ b.readingLines - b.readingPage) :=
  fitted_of_sheets (goBack_sheets hc)

theorem fitted_when_shown {id : Nat} {d : Detail}
    (hs : b.Shows (.detailLoaded id (.ok (some d)))) :
    (b.update (.detailLoaded id (.ok (some d)))).1.Fitted ↔
      b.view.readingScroll ≤ d.lines.length - b.readingPage := by
  refine (fitted_of_sheets (shown_sheets hs)).trans ⟨fun h => (h rfl d rfl).2, ?_⟩
  rintro h - d' hd
  cases hd
  exact ⟨rfl, h⟩

theorem Misfits.not_fitted (h : Misfits b e) : ¬ (b.update e).1.Fitted := by
  cases h with
  | back hs hc hl hd hm =>
    rw [hs, fitted_after_back hc]
    intro h
    obtain ⟨hn, hle⟩ := h hl _ hd
    rw [hn] at hm hle
    omega
  | shown hs hm =>
    rw [fitted_when_shown hs]
    omega

theorem Reads.fitted (h : Reads b s) (hb : b.Fitted) (hn : s = b.goBack → s.1.Fitted) :
    s.1.Fitted := by
  cases h with
  | stay hv => exact (fitted_of_sheets hv).2 hb
  | look f scroll hf hs hv =>
    refine (fitted_of_sheets hv).2 fun hl d hd => ?_
    obtain ⟨hlines, hle⟩ := hb hl d hd
    refine ⟨hlines, ?_⟩
    rcases hs with rfl | hs
    · exact hle
    · exact hs
  | leave level hl hv => exact (fitted_of_sheets hv).2 fun hr => absurd hr hl
  | await crumbs hc hv => exact (fitted_of_sheets hv).2 fun _ d hd => by cases hd
  | back crumb rest hs hc hv => exact hn hs
  | top hv => exact (fitted_of_sheets hv).2 fun hr => by cases hr

theorem resize_fitted (hb : b.Fitted) (height : Nat) : (b.resize height).Fitted :=
  fun hl d hd => ⟨(hb hl d hd).1, Nat.min_le_right _ _⟩

theorem update_fitted (hb : b.Fitted) (hn : ¬ Misfits b e) : (b.update e).1.Fitted := by
  rcases update_reads b e with h | ⟨height, rfl⟩ | ⟨id, d, rfl, hs⟩
  · refine h.fitted hb fun hback => ?_
    cases hc : b.crumbs with
    | nil =>
      rw [hback]
      unfold goBack
      rw [hc]
      exact hb
    | cons crumb rest =>
      rw [hback, fitted_after_back hc]
      intro hl d hd
      refine Decidable.byContradiction fun hm => hn (.back hback hc hl hd ?_)
      omega
  · exact resize_fitted hb height
  · rw [fitted_when_shown hs]
    exact Nat.le_of_not_lt fun hm => hn (.shown hs hm)

/-- **Throughout a session the lines of the message on screen are counted, and it is scrolled no
further than its last page, exactly if no step of it misfits.** -/
theorem fitted_iff (c : Config) (es : List Event) :
    (∀ before, before <+: es → (session c before).1.Fitted) ↔
      ∀ before e after, es = before ++ e :: after → ¬ Misfits (session c before).1 e :=
  session_iff_unbroken (fun _ hl => by cases hl) (fun _ _ _ hb hn => update_fitted hb hn)
    (fun _ hb => hb) (fun _ _ _ _ hm => hm.not_fitted) c es

def letterOf (id : Int) (body : String) : Detail where
  id := id
  providerId := ""
  conversation := 7
  subject := "one"
  sentAt := .epoch
  body := body

/-- From a message to its thread, to a longer message there, and back to the first. -/
theorem another_letter_counted : ¬ ∀ (c : Config) (es : List Event), (session c es).1.Fitted := by
  intro h
  let one : Summary := { id := 1, conversation := 7 }
  let two : Summary := { id := 2, conversation := 7 }
  let es : List Event := [
    .rowsLoaded 1 (.ok [{ key := "alice@example.com" }]), .key .enter,
    .messagesLoaded 1 (.ok [one]), .key .enter, .detailLoaded 1 (.ok (some (letterOf 1 "a"))),
    .key (.char 'T'), .threadLoaded 2 (.ok [one, two]), .key .down, .key .enter,
    .detailLoaded 2 (.ok (some (letterOf 2 "a\nb\nc"))), .key .escape, .key .escape]
  have hl : (session {} es).1.view.level = .reading := by decide +kernel
  have hd : (session {} es).1.view.data.detail = some (letterOf 1 "a") := by decide +kernel
  have hn : (session {} es).1.readingLines = (letterOf 2 "a\nb\nc").lines.length := by
    decide +kernel
  have hlines := (h {} es hl _ hd).1
  rw [hn] at hlines
  exact absurd hlines (by decide +kernel)

end Browser
end MailBrowser
