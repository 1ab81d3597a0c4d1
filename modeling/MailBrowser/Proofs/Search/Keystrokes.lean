import MailBrowser.Proofs.Search.Queries

/-!
# Keystrokes that are searched for

The search follows the line with some delay: what was typed last is searched for when its tick
comes.  Whatever makes a tick void has to see to the text itself.  Closing the line does, and so
does turning the mode over a text; but over a line with nothing in it the mode is turned and no
more.

* `TicksOwed`       no tick comes that was not asked for, and none twice;
* `Browser.Blanks`  the mode is turned over an empty line while a search holds;
* `Blanked`         this was the last that happened to the line;
* `Settling`        the line shows what is searched for, or a tick will see to it, or this happened;
* `shown_iff`       when no tick is owed, the line shows what is searched for unless this happened.
-/

namespace MailBrowser

def Event.isTick : Event → Bool
  | .searchTick _ _ => true
  | _ => false

namespace Browser
open Text

def TicksOwed (c : Config) (es : List Event) : Prop :=
  ∀ before e after, es = before ++ e :: after → e.isTick = true → ∃ x ∈ owed c before, Outcome x e

/-- A key turns the mode of a search over a line that has been emptied. -/
structure Blanks (b : Browser) (e : Event) : Prop extends InLine b where
  key : e = .key .tab
  level : b.view.level = .list
  blank : (trim b.search.input).isEmpty = true
  searching : b.view.query.isEmpty = false

/-- Since then nothing has been typed, and the line has not been closed. -/
def Blanked (c : Config) (es : List Event) : Prop :=
  ∃ before e after, es = before ++ e :: after ∧ (session c before).1.Blanks e ∧
    (session c es).1.search.token = (session c before).1.search.token + 1

variable {b : Browser} {e : Event} {c : Config} {es : List Event} {waiting : List Effect}

theorem Blanks.update_eq (h : b.Blanks e) :
    b.update e = (b.withSearch { b.search with mode := b.search.mode.other }.bumpToken).still := by
  rw [h.key]
  show b.press .tab = _
  rw [press_inLine h.toInLine (by decide)]
  show b.toggleMode = _
  unfold toggleMode
  rw [if_pos h.level]
  exact if_pos h.blank

/-- The token never falls. -/
theorem update_token_le (b : Browser) (e : Event) :
    b.search.token ≤ (b.update e).1.search.token := by
  cases update_pulse b e with
  | kept hn ht hl => exact Nat.le_of_eq ht.symm
  | typed delay hx ht ha => exact ht ▸ Nat.le_succ _
  | voided hn ht => exact Nat.le_of_lt ht

theorem run_token_le (b : Browser) (es : List Event) :
    b.search.token ≤ (b.run es).1.search.token :=
  run_keeps (P := fun d => b.search.token ≤ d.search.token)
    (fun d e h => Nat.le_trans h (update_token_le d e)) (Nat.le_refl _) es

/-- The mode has just been turned, or it was before and the line has been left alone. -/
theorem blanked_concat : Blanked c (es ++ [e]) ↔ (session c es).1.Blanks e ∨
    (Blanked c es ∧
      ((session c es).1.update e).1.search.token = (session c es).1.search.token) := by
  constructor
  · rintro ⟨before, f, after, hes, hf, ht⟩
    rcases List.eq_nil_or_concat' after with rfl | ⟨after, g, rfl⟩
    · obtain ⟨rfl, he⟩ := List.append_inj' hes rfl
      cases he
      exact .inl hf
    · rw [← List.cons_append, ← List.append_assoc] at hes
      obtain ⟨rfl, he⟩ := List.append_inj' hes rfl
      cases he
      have hturned : (session c before).1.search.token + 1 =
          ((session c before).1.update f).1.search.token := by
        rw [hf.update_eq]
        rfl
      have hsince := run_token_le ((session c before).1.update f).1 after
      rw [← session_split, ← hturned] at hsince
      rw [session_concat] at ht
      have hlast := update_token_le (session c (before ++ f :: after)).1 e
      exact .inr ⟨⟨before, f, after, rfl, hf, by omega⟩, by omega⟩
  · rintro (h | ⟨⟨before, f, after, rfl, hf, ht⟩, hk⟩)
    · refine ⟨es, e, [], rfl, h, ?_⟩
      rw [session_concat, h.update_eq]
      rfl
    · refine ⟨before, f, after ++ [e], by simp, hf, ?_⟩
      rw [session_concat, hk, ht]

theorem Blanks.token_ne (h : b.Blanks e) : (b.update e).1.search.token ≠ b.search.token := by
  rw [h.update_eq]
  exact Nat.succ_ne_self _

/-! ## the line and the search -/

/-- what holds of an open line: it shows what is searched for, or its tick is owed, or the mode was
turned when it had been emptied, and no tick counts any more -/
inductive Settling (b : Browser) (waiting : List Effect) (blanked : Prop) : Prop where
  | shown (hb : ¬ blanked) (hq : b.view.query = trim b.search.input)
  | due (hb : ¬ blanked) (delay : Nat)
      (hx : .searchTick delay b.search.input b.search.token ∈ waiting)
  | void (hb : blanked) (hi : (trim b.search.input).isEmpty = true)
      (hq : b.view.query.isEmpty = false) (hn : b.search.token ∉ tokens waiting)

theorem query_of_queries {d : Browser} (h : d.queries = b.queries) :
    d.view.query = b.view.query := (List.cons.inj h).1

/-- No tick is asked for under the token that was there before. -/
theorem tokens_of_kept (ht : (b.update e).1.search.token = b.search.token) :
    tokens (b.update e).2 = [] := by
  cases update_pulse b e with
  | kept hn hs hl => exact hn
  | typed delay hx hs ha => omega
  | voided hn hs => exact hn

theorem token_of_typed {delay : Nat} {text : String} {token : Nat}
    (hx : (b.update e).2 = [.searchTick delay text token]) :
    (b.update e).1.search.token ≠ b.search.token := by
  intro ht
  have hn := tokens_of_kept ht
  rw [hx] at hn
  cases hn

section
variable {here : Effect → Prop} {blanked : Prop}

theorem Settling.kept (h : Settling b waiting blanked) (hl : (b.update e).1.line = b.line)
    (hq : (b.update e).1.view.query = b.view.query)
    (he : ∀ text, e ≠ .searchTick text b.search.token) :
    Settling (b.update e).1 (settle waiting e ++ (b.update e).2) blanked := by
  have ht : (b.update e).1.search.token = b.search.token := congrArg Prod.fst hl
  have hi : (b.update e).1.search.input = b.search.input := congrArg (·.2.2.1) hl
  cases h with
  | shown hb hs => exact .shown hb (by rw [hq, hi, hs])
  | due hb delay hx =>
    refine .due hb delay (List.mem_append_left _ ?_)
    rw [ht, hi]
    refine mem_settle hx fun ho => ?_
    cases ho with
    | tick => exact he _ rfl
  | void hb hs hne hn =>
    refine .void hb (by rw [hi, hs]) (by rw [hq, hne]) ?_
    rw [ht, tokens_append, tokens_of_kept ht, List.append_nil]
    exact fun hm => hn ((tokens_settle waiting e).subset hm)

/-- What a step other than a tick makes of an open line. -/
theorem settling_update (htrim : Trimmed b) (hw : Ticking here b waiting)
    (hopen : blanked → b.search.active = true)
    (h : b.search.active = true → Settling b waiting blanked)
    (he : ∀ text token, e ≠ .searchTick text token)
    (ha : (b.update e).1.search.active = true) :
    Settling (b.update e).1 (settle waiting e ++ (b.update e).2)
      (b.Blanks e ∨ (blanked ∧ (b.update e).1.search.token = b.search.token)) := by
  cases update_seek b e he with
  | kept hl hq =>
    have ht : (b.update e).1.search.token = b.search.token := congrArg Prod.fst hl
    have hb : b.Blanks e ∨ (blanked ∧ (b.update e).1.search.token = b.search.token) ↔ blanked :=
      ⟨fun hb => hb.elim (fun hb => absurd ht hb.token_ne) And.left, fun hb => .inr ⟨hb, ht⟩⟩
    rw [hb]
    refine (h ?_).kept hl (query_of_queries hq) fun text => he text _
    rw [← ha]
    exact (congrArg (·.2.1) hl).symm
  | opened hc hi hq =>
    refine .shown ?_ ?_
    · rintro (hb | ⟨hb, -⟩)
      · rw [hb.open_] at hc
        cases hc
      · rw [hopen hb] at hc
        cases hc
    · rw [hi, query_of_queries hq]
      exact (htrim _ List.mem_cons_self).symm
  | typed delay hx hq =>
    refine .due ?_ delay (List.mem_append_right _ (hx ▸ List.mem_singleton_self _))
    rintro (hb | ⟨-, ht⟩)
    · rw [hb.update_eq] at hx
      cases hx
    · exact token_of_typed hx ht
  | applied hi hs ht hq =>
    refine .shown ?_ ?_
    · rintro (hb | ⟨-, hk⟩)
      · rw [hb.blank] at hi
        cases hi
      · omega
    · rw [hs]
      exact (List.cons.inj hq).1
  | blank he hb hl hi hs =>
    have ht : (b.update e).1.search.token = b.search.token + 1 := by rw [hs]; rfl
    by_cases hq : b.view.query.isEmpty = true
    · refine .shown ?_ ?_
      · rintro (hb | ⟨-, hk⟩)
        · rw [hb.searching] at hq
          cases hq
        · omega
      · rw [hs]
        exact (String.isEmpty_iff.1 hq).trans (String.isEmpty_iff.1 hi).symm
    · have hq : b.view.query.isEmpty = false := by simpa using hq
      refine .void (.inl ⟨hb, he, hl, hi, hq⟩) ?_ ?_ ?_
      · rw [hs]
        exact hi
      · rw [hs]
        exact hq
      · rw [ht, tokens_append]
        intro hm
        rcases List.mem_append.1 hm with hm | hm
        · have := hw.le _ ((tokens_settle waiting e).subset hm)
          omega
        · rw [hs] at hm
          cases hm
  | closed hc hq =>
    rw [hc] at ha
    cases ha

/-- A tick that is owed searches for what stands in the line, or nothing happens. -/
theorem settling_ticked (hw : Ticking here b waiting)
    (h : b.search.active = true → Settling b waiting blanked) {delay token : Nat} {text : String}
    (hx : .searchTick delay text token ∈ waiting)
    (ha : (b.ticked text token).1.search.active = true) :
    Settling (b.ticked text token).1 (settle waiting (.searchTick text token) ++
      (b.ticked text token).2) blanked := by
  by_cases ht : token = b.search.token
  · obtain ⟨hopen, hi, -⟩ := hw.live delay text token hx ht
    have hline : (b.ticked text token).1.line = b.line := by
      rw [ticked, if_pos ht, applyQuery_line]
    refine .shown ?_ ?_
    · cases h hopen with
      | shown hb => exact hb
      | due hb => exact hb
      | void hb hi hq hn =>
        rw [← ht] at hn
        exact absurd (token_mem_tokens hx) hn
    · have hinput : (b.ticked text token).1.search.input = b.search.input :=
        congrArg (·.2.2.1) hline
      rw [hinput, ticked, if_pos ht, ← hi]
      exact (List.cons.inj (applyQuery_queries b (trim text))).1
  · have hstill : b.update (.searchTick text token) = b.still := if_neg ht
    have hk : b.search.active = true := by
      rw [ticked, if_neg ht] at ha
      exact ha
    have hs := (h hk).kept (e := .searchTick text token) (by rw [hstill]; rfl)
      (by rw [hstill]; rfl) fun _ he => ht (by cases he; rfl)
    exact hs

end

/-! ## sessions -/

theorem TicksOwed.of_concat (h : TicksOwed c (es ++ [e])) : TicksOwed c es := by
  rintro before f after rfl
  exact h before f (after ++ [e]) (by simp)

theorem ticksOwed_of_take (h : ∀ n (hn : n < es.length), es[n].isTick = true →
    ∃ x ∈ owed c (es.take n), Outcome x es[n]) : TicksOwed c es := by
  rintro before e after rfl he
  have hn : before.length < (before ++ e :: after).length := by simp
  have hx := h before.length hn
  rw [List.getElem_append_right (Nat.le_refl _)] at hx
  simp only [Nat.sub_self, List.getElem_cons_zero, List.take_left] at hx
  exact hx he

/-- Nothing closes the line without a new token. -/
theorem Blanked.open (h : Blanked c es) : (session c es).1.search.active = true := by
  induction es using List.reverseRecOn with
  | nil =>
    obtain ⟨before, f, after, hes, -⟩ := h
    simp at hes
  | append_singleton es e ih =>
    rw [session_concat]
    rcases blanked_concat.1 h with hb | ⟨hb, ht⟩
    · rw [hb.update_eq]
      exact hb.open_
    · have hopen := ih hb
      cases update_pulse (session c es).1 e with
      | kept hn hs hl => exact (congrArg (·.2.1) (hl hopen)).trans hopen
      | typed delay hx hs ha => exact ha
      | voided hn hs => omega

theorem session_settling (ht : TicksOwed c es) (ha : (session c es).1.search.active = true) :
    Settling (session c es).1 (owed c es) (Blanked c es) := by
  induction es using List.reverseRecOn with
  | nil => cases ha
  | append_singleton es e ih =>
    have hstep := ih ht.of_concat
    have hw := session_ticking c es
    rw [owed_concat, session_concat, blanked_concat]
    rw [session_concat] at ha
    by_cases he : ∃ text token, e = .searchTick text token
    · obtain ⟨text, token, rfl⟩ := he
      obtain ⟨x, hx, ho⟩ := ht es (.searchTick text token) [] rfl rfl
      have hb : Blanked c es ↔ ((session c es).1.Blanks (.searchTick text token) ∨
          (Blanked c es ∧ ((session c es).1.update (.searchTick text token)).1.search.token =
            (session c es).1.search.token)) := by
        have htoken : ((session c es).1.update (.searchTick text token)).1.search.token =
            (session c es).1.search.token := by
          show ((session c es).1.ticked text token).1.search.token = _
          unfold ticked
          split
          · exact congrArg Prod.fst (applyQuery_line _ _)
          · rfl
        exact ⟨fun hb => .inr ⟨hb, htoken⟩, fun hb => hb.elim (fun hb => nomatch hb.key) And.left⟩
      rw [← hb]
      cases ho
      exact settling_ticked hw hstep hx ha
    · exact settling_update (Reachable.trimmed ⟨c, es, rfl⟩) hw Blanked.open hstep
        (fun text token h => he ⟨text, token, h⟩) ha

/-- **No keystroke is lost, but when a mode is turned.**  When no tick is owed, an open line shows
what is searched for, unless the last that happened to it was that the mode was turned while it
stood empty over the results of a search. -/
theorem shown_iff (c : Config) (es : List Event) (ht : TicksOwed c es)
    (hn : tokens (owed c es) = []) (ha : (session c es).1.search.active = true) :
    (session c es).1.view.query = trim (session c es).1.search.input ↔ ¬ Blanked c es := by
  cases session_settling ht ha with
  | shown hb hq => exact ⟨fun _ => hb, fun _ => hq⟩
  | due hb delay hx =>
    have hm := token_mem_tokens hx
    rw [hn] at hm
    cases hm
  | void hb hi hq hv =>
    refine ⟨fun hs => ?_, fun h => absurd hb h⟩
    rw [hs, hi] at hq
    cases hq

/-- A letter is searched for in the list of all messages, and erased. -/
def erased : List Event :=
  [.key (.char 'a'), .messagesLoaded 1 (.ok []), .key (.char '/'), .key (.char 'o'),
    .searchTick "o" 2, .searchLoaded 1 false (.ok {}), .key .backspace]

theorem not_blanked_erased : ¬ Blanked {} (erased ++ [.searchTick "" 3]) := by
  intro h
  rcases blanked_concat.1 h with hb | ⟨hb, -⟩
  · cases hb.key
  · change Blanked {} (erased.dropLast ++ [.key .backspace]) at hb
    rcases blanked_concat.1 hb with hb | ⟨-, ht⟩
    · cases hb.key
    · revert ht
      decide +kernel

/-- When the tick of the erasure comes, nothing is searched for any more. -/
theorem shown_after_erasing :
    let b := (session {} (erased ++ [.searchTick "" 3])).1
    b.search.active = true ∧ b.view.query = trim b.search.input := by
  have ha : (session {} (erased ++ [.searchTick "" 3])).1.search.active = true := by
    decide +kernel
  exact ⟨ha, (shown_iff {} _ (ticksOwed_of_take (by decide +kernel)) (by decide +kernel) ha).2
    not_blanked_erased⟩

/-- The mode is turned before the tick of the erasure comes: the letter is still searched for. -/
theorem sought_after_erasing :
    ¬ ∀ (c : Config) (es : List Event), TicksOwed c es → tokens (owed c es) = [] →
      (session c es).1.search.active = true →
      (session c es).1.view.query = trim (session c es).1.search.input := by
  intro h
  have hs := h {} (erased ++ [.key .tab, .searchTick "" 3])
    (ticksOwed_of_take (by decide +kernel)) (by decide +kernel) (by decide +kernel)
  revert hs
  decide +kernel

end Browser
end MailBrowser
