import Mathlib.Data.List.Induction
import Mathlib.Data.List.Nodup
import MailBrowser.Proofs.Requests.Owed

/-!
# Ticks

A keystroke in the search line asks for a tick under a new token, and a tick counts only while its
token is the one of the line.  Ticks are never called back: what makes them void is the token.

* `ticks`            the ticks among effects;
* `Pulse`            what a step does to the line: it leaves it, types into it, or voids its ticks;
* `update_pulse`     every step does one of these;
* `Seeks`            a request that searches for a text, and for no other;
* `Ticking`          a tick of the line is for the text that stands in it, at the level it stands at;
* `ticks_sound`      what the ticks that are owed come to.
-/

namespace MailBrowser

def Effect.token? : Effect → Option Nat
  | .searchTick _ _ token => some token
  | _ => none

def tokens (xs : List Effect) : List Nat := xs.filterMap Effect.token?

theorem tokens_append (xs ys : List Effect) : tokens (xs ++ ys) = tokens xs ++ tokens ys :=
  List.filterMap_append

theorem token_mem_tokens {delay token : Nat} {text : String} {xs : List Effect}
    (h : .searchTick delay text token ∈ xs) : token ∈ tokens xs :=
  List.mem_filterMap.2 ⟨_, h, rfl⟩

/-- What is searched for, if anything is, is the text. -/
def Effect.Seeks (text : String) : Effect → Prop
  | .loadRows _ _ _ o => o.search = if text.isEmpty then none else some text
  | .search _ q => q.query = text
  | _ => True

namespace Browser
open Text

/-- the line that a tick is for: its token, whether it is open, its text, and where it is -/
def line (b : Browser) : Nat × Bool × String × Level :=
  (b.search.token, b.search.active, b.search.input, b.view.level)

inductive Pulse (b : Browser) (s : Step) : Prop where
  | kept (hn : tokens s.2 = []) (ht : s.1.search.token = b.search.token)
      (hl : b.search.active = true → s.1.line = b.line)
  | typed (delay : Nat) (hx : s.2 = [.searchTick delay s.1.search.input s.1.search.token])
      (ht : s.1.search.token = b.search.token + 1) (ha : s.1.search.active = true)
  | voided (hn : tokens s.2 = []) (ht : b.search.token < s.1.search.token)

variable {b c : Browser} {s : Step}

theorem pulse_of_line (hn : tokens s.2 = []) (h : s.1.line = b.line) : Pulse b s :=
  .kept hn (congrArg Prod.fst h) fun _ => h

/-- Where no line is open, it is enough that the token does not fall. -/
theorem pulse_of_closed (ha : b.search.active = false) (hn : tokens s.2 = [])
    (ht : b.search.token ≤ s.1.search.token) : Pulse b s := by
  rcases Nat.eq_or_lt_of_le ht with h | h
  · refine .kept hn h.symm fun hb => ?_
    rw [ha] at hb
    cases hb
  · exact .voided hn h

theorem Pulse.after (h : Pulse c s) (hl : c.line = b.line) : Pulse b s := by
  have ht : c.search.token = b.search.token := congrArg Prod.fst hl
  have ha : c.search.active = b.search.active := congrArg (·.2.1) hl
  cases h with
  | kept hn h1 h2 =>
    refine .kept hn (h1.trans ht) fun hb => ?_
    exact (h2 (ha.trans hb)).trans hl
  | typed delay hx h1 h2 => exact .typed delay hx (by rw [h1, ht]) h2
  | voided hn h1 => exact .voided hn (by rw [← ht]; exact h1)

variable (b)

/-! ## loads -/

theorem reload_tokens : tokens b.reload.2 = [] := by
  unfold reload
  split
  · rfl
  · rfl
  · split <;> rfl
  · rfl
  · split <;> rfl

theorem reload_line : b.reload.1.line = b.line := by
  unfold reload
  split
  · rfl
  · rfl
  · split <;> rfl
  · rfl
  · split <;> rfl

theorem reload_token : b.reload.1.search.token = b.search.token := congrArg Prod.fst (reload_line b)

theorem reload_pulse : Pulse b b.reload := pulse_of_line (reload_tokens b) (reload_line b)

theorem loadMore_pulse : Pulse b b.loadMore := by
  unfold loadMore
  dsimp only
  split <;> exact pulse_of_line rfl rfl

theorem loadMoreDeep_pulse : Pulse b b.loadMoreDeep := by
  unfold loadMoreDeep
  dsimp only
  split <;> exact pulse_of_line rfl rfl

/-! ## cursors -/

theorem moveCursor_pulse (delta : Int) : Pulse b (b.moveCursor delta) := by
  unfold moveCursor
  split
  · unfold scrollReading
    dsimp only
    split
    · exact pulse_of_line rfl rfl
    · split <;> exact pulse_of_line rfl rfl
  · exact pulse_of_line rfl rfl
  · exact (loadMore_pulse _).after rfl

theorem toStart_pulse : Pulse b b.toStart := by
  unfold toStart
  split <;> exact pulse_of_line rfl rfl

theorem toEnd_pulse : Pulse b b.toEnd := by
  unfold toEnd
  split
  · exact pulse_of_line rfl rfl
  · exact pulse_of_line rfl rfl
  · exact (loadMore_pulse _).after rfl

theorem moveCursor_line (delta : Int) : (b.moveCursor delta).1.line = b.line := by
  unfold moveCursor
  split
  · unfold scrollReading
    dsimp only
    split
    · rfl
    · split <;> rfl
  · rfl
  · unfold loadMore
    dsimp only
    split <;> rfl

theorem pageDown_pulse (rows : Nat) : Pulse b (b.pageDown rows) := by
  unfold pageDown
  split
  · exact loadMoreDeep_pulse b
  · dsimp only
    split
    · exact (loadMoreDeep_pulse _).after (moveCursor_line b rows)
    · exact moveCursor_pulse b rows

theorem showHit_line : b.showHit.line = b.line := by
  unfold showHit
  split <;> rfl

theorem stepHit_line (forward : Bool) : (b.stepHit forward).line = b.line := by
  unfold stepHit
  dsimp only
  split
  · rfl
  · exact showHit_line _

theorem pressInFind_line (input : String) (k : Key) : (b.pressInFind input k).line = b.line := by
  unfold pressInFind
  split
  · unfold commitFind
    exact showHit_line _
  all_goals rfl

/-! ## from view to view -/

theorem drill_pulse : Pulse b b.drill := by
  unfold drill
  split
  · exact pulse_of_line rfl rfl
  · exact .voided rfl (Nat.lt_succ_self _)

theorem showAll_pulse : Pulse b b.showAll := by
  unfold showAll
  dsimp only
  split <;> exact .voided rfl (Nat.lt_succ_self _)

theorem groupWithin_pulse (d : Dimension) : Pulse b (b.groupWithin d) :=
  .voided rfl (Nat.lt_succ_self _)

theorem groupByTime_pulse : Pulse b b.groupByTime := by
  unfold groupByTime
  split
  · exact groupWithin_pulse b .time
  · exact pulse_of_line rfl rfl

variable {b} in
theorem openMessage_pulse (ha : b.search.active = false) (fromThread : Bool) :
    Pulse b (b.openMessage fromThread) := by
  unfold openMessage
  dsimp only
  split
  · exact pulse_of_line rfl rfl
  · exact pulse_of_closed ha rfl (Nat.le_refl _)

variable {b} in
theorem openThread_pulse (ha : b.search.active = false) : Pulse b b.openThread := by
  unfold openThread
  split
  · exact pulse_of_line rfl rfl
  · exact pulse_of_closed ha rfl (Nat.le_refl _)

theorem turnMessage_pulse (delta : Int) : Pulse b (b.turnMessage delta) := by
  unfold turnMessage
  dsimp only
  split
  · exact pulse_of_line rfl rfl
  · split
    · exact pulse_of_line rfl rfl
    · split
      · exact pulse_of_line rfl rfl
      · unfold followReading
        split <;> exact pulse_of_line rfl rfl

theorem goBack_pulse : Pulse b b.goBack := by
  unfold goBack
  split
  · exact pulse_of_line rfl rfl
  · dsimp only
    split
    · exact .voided rfl (Nat.lt_succ_self _)
    · refine .voided (reload_tokens _) ?_
      rw [reload_token]
      exact Nat.lt_succ_self _

theorem goToTop_pulse : Pulse b b.goToTop := .voided rfl (Nat.lt_succ_self _)

theorem selectAccount_pulse (choice : Nat) : Pulse b (b.selectAccount choice) :=
  .voided rfl (Nat.lt_succ_self _)

theorem setAttachmentsOnly_pulse (only : Bool) : Pulse b (b.setAttachmentsOnly only) := by
  have hn (d : Browser) : tokens (d.reload.2 ++ [d.reload.1.statsEffect]) = [] := by
    rw [tokens_append, reload_tokens d]
    rfl
  unfold setAttachmentsOnly
  dsimp only
  split
  · exact pulse_of_line (hn _) (reload_line _)
  · exact (reload_pulse _).after rfl

theorem switchDimension_pulse (d : Dimension) : Pulse b (b.switchDimension d) :=
  pulse_of_line rfl rfl

theorem pressTime_pulse : Pulse b b.pressTime := by
  unfold pressTime
  split
  · exact pulse_of_line rfl rfl
  · split
    · exact pulse_of_line rfl rfl
    · exact switchDimension_pulse b .time

theorem nextSort_pulse : Pulse b b.nextSort := by
  unfold nextSort
  split
  · exact pulse_of_line rfl rfl
  · exact pulse_of_line rfl rfl
  · exact (reload_pulse _).after rfl
  · exact pulse_of_line rfl rfl

theorem flipSort_pulse : Pulse b b.flipSort := by
  unfold flipSort
  split
  · exact pulse_of_line rfl rfl
  · exact pulse_of_line rfl rfl
  · exact (reload_pulse _).after rfl
  · exact pulse_of_line rfl rfl

/-! ## the line -/

variable {b} in
/-- The text is another one under the same token, but no tick counts before it opens. -/
theorem openSearch_pulse (ha : b.search.active = false) : Pulse b b.openSearch := by
  unfold openSearch
  split
  · exact pulse_of_closed ha rfl (Nat.le_refl _)
  · exact pulse_of_line rfl rfl

theorem clearSearch_tokens : tokens b.clearSearch.2 = [] := by
  unfold clearSearch
  dsimp only
  split <;> rfl

theorem clearSearch_line : b.clearSearch.1.line = b.line := by
  unfold clearSearch
  dsimp only
  split <;> rfl

theorem clearSearch_token : b.clearSearch.1.search.token = b.search.token :=
  congrArg Prod.fst (clearSearch_line b)

theorem cancelSearch_pulse : Pulse b b.cancelSearch := by
  unfold cancelSearch
  dsimp only
  split
  · refine .voided (clearSearch_tokens _) ?_
    show b.search.token < (clearSearch _).1.search.token
    rw [clearSearch_token]
    exact Nat.lt_succ_self _
  · split
    · exact .voided rfl (Nat.lt_succ_self _)
    · split <;> exact .voided rfl (Nat.lt_succ_self _)

theorem commitSearch_pulse : Pulse b b.commitSearch := by
  unfold commitSearch
  dsimp only
  split
  · exact cancelSearch_pulse b
  · split
    · exact .voided rfl (Nat.lt_succ_self _)
    · split <;> exact .voided rfl (Nat.lt_succ_self _)
    · split <;> exact .voided rfl (Nat.lt_succ_self _)
    · exact .voided rfl (Nat.lt_succ_self _)

theorem toggleMode_pulse : Pulse b b.toggleMode := by
  unfold toggleMode
  split
  · dsimp only
    split <;> exact .voided rfl (Nat.lt_succ_self _)
  · exact pulse_of_line rfl rfl

variable {b} in
theorem typed_pulse (ha : b.search.active = true) (input : String) : Pulse b (b.typed input) :=
  .typed _ rfl rfl ha

theorem applyQuery_pulse (query : String) : Pulse b (b.applyQuery query) := by
  unfold applyQuery
  dsimp only
  split
  · split
    · exact pulse_of_line (clearSearch_tokens _) (clearSearch_line _)
    · exact pulse_of_line rfl rfl
  · exact pulse_of_line rfl rfl
  · exact pulse_of_line rfl rfl
  · exact pulse_of_line rfl rfl

theorem ticked_pulse (query : String) (token : Nat) : Pulse b (b.ticked query token) := by
  unfold ticked
  split
  · exact applyQuery_pulse b _
  · exact pulse_of_line rfl rfl

/-! ## marks, batches, files -/

theorem toggleMark_line : b.toggleMark.line = b.line := by
  unfold toggleMark
  split
  · split <;> rfl
  · split <;> rfl
  · split <;> rfl
  · rfl

theorem markVisible_line : b.markVisible.line = b.line := by
  unfold markVisible
  split <;> rfl

theorem stageMarked_pulse (orCurrent : Bool) : Pulse b (b.stageMarked orCurrent) := by
  have hm : (if orCurrent && b.selection.isEmpty then b.toggleMark else b).line = b.line := by
    split
    · exact toggleMark_line b
    · rfl
  unfold stageMarked
  dsimp only
  generalize (if orCurrent && b.selection.isEmpty then b.toggleMark else b) = d at hm
  split <;> exact pulse_of_line rfl hm

theorem openExport_pulse : Pulse b b.openExport := by
  unfold openExport
  split <;> exact pulse_of_line rfl rfl

theorem exportChosen_pulse (chosen : OrdSet Nat) : Pulse b (b.exportChosen chosen) := by
  unfold exportChosen
  split
  · exact pulse_of_line rfl rfl
  · dsimp only
    split <;> exact pulse_of_line rfl rfl

/-! ## all steps -/

variable {b}

theorem KeyStep.pulse (h : KeyStep b s) : Pulse b s := by
  cases h with
  | chooseAccount cursor => exact (selectAccount_pulse _ cursor).after rfl
  | chooseScope cursor => exact (setAttachmentsOnly_pulse _ _).after rfl
  | chooseFiles cursor chosen => exact (exportChosen_pulse _ chosen).after rfl
  | cancelLine => exact cancelSearch_pulse b
  | commitLine => exact commitSearch_pulse b
  | toggleMode => exact toggleMode_pulse b
  | typed input _ _ ha => exact typed_pulse ha input
  | find input k => exact pulse_of_line rfl (pressInFind_line b input k)
  | moveCursor delta => exact moveCursor_pulse b delta
  | pageDown rows => exact pageDown_pulse b rows
  | toStart => exact toStart_pulse b
  | toEnd => exact toEnd_pulse b
  | drill => exact drill_pulse b
  | showAll => exact showAll_pulse b
  | groupBy => exact groupWithin_pulse b _
  | groupByTime => exact groupByTime_pulse b
  | openMessage fromThread hb => exact openMessage_pulse hb.noLine fromThread
  | openThread hb => exact openThread_pulse hb.noLine
  | goBack => exact goBack_pulse b
  | goToTop => exact goToTop_pulse b
  | turnDimension => exact switchDimension_pulse b _
  | pressTime => exact pressTime_pulse b
  | nextSort => exact nextSort_pulse b
  | flipSort => exact flipSort_pulse b
  | openSearch hb => exact openSearch_pulse hb.noLine
  | cancelSearch => exact cancelSearch_pulse b
  | toggleMark => exact pulse_of_line rfl (toggleMark_line b)
  | markVisible => exact pulse_of_line rfl (markVisible_line b)
  | stageMarked orCurrent => exact stageMarked_pulse b orCurrent
  | turnMessage delta => exact turnMessage_pulse b delta
  | stepHit forward => exact pulse_of_line rfl (stepHit_line b forward)
  | openExport => exact openExport_pulse b
  | _ => exact pulse_of_line rfl rfl

/-- **Every step leaves the line as it is, types into it, or makes its ticks void.** -/
theorem update_pulse (b : Browser) (e : Event) : Pulse b (b.update e) := by
  cases e with
  | key k => exact (press_keyStep b k).pulse
  | searchTick query token => exact ticked_pulse b query token
  | rowsLoaded id result =>
    refine pulse_of_line rfl ?_
    show (b.rowsArrived id result).line = b.line
    unfold rowsArrived
    split
    · cases result <;> rfl
    · rfl
  | messagesLoaded id result =>
    refine pulse_of_line rfl ?_
    show (b.messagesArrived id result).line = b.line
    unfold messagesArrived
    split
    · dsimp only
      split
      · rfl
      · cases result <;> rfl
    · rfl
  | threadLoaded id result =>
    refine pulse_of_line rfl ?_
    show (b.threadArrived id result).line = b.line
    unfold threadArrived
    split
    · cases result <;> rfl
    · rfl
  | detailLoaded id result =>
    refine pulse_of_line rfl ?_
    show (b.detailArrived id result).line = b.line
    unfold detailArrived
    split
    · dsimp only
      split <;> rfl
    · rfl
  | searchLoaded id append result =>
    refine pulse_of_line rfl ?_
    show (b.searchArrived id append result).line = b.line
    unfold searchArrived
    split
    · cases result <;> rfl
    · rfl
  | flashExpired generation =>
    refine pulse_of_line rfl ?_
    show (b.expireFlash generation).line = b.line
    unfold expireFlash
    split <;> rfl
  | manifestBuilt result =>
    show Pulse b (b.manifestBuilt result)
    unfold manifestBuilt
    dsimp only
    split <;> exact pulse_of_line rfl rfl
  | manifestSaved result =>
    show Pulse b (b.manifestSaved result)
    unfold manifestSaved
    dsimp only
    split <;> exact pulse_of_line rfl rfl
  | exportFinished result =>
    show Pulse b (b.exportFinished result)
    unfold exportFinished
    dsimp only
    split <;> exact pulse_of_line rfl rfl
  | statsLoaded result => cases result <;> exact pulse_of_line rfl rfl
  | accountsLoaded result => cases result <;> exact pulse_of_line rfl rfl
  | resize height => exact pulse_of_line rfl rfl

/-! ## what is owed -/

/-- No two ticks that wait have one token, and the token of the line is the last.  Its tick, if it
waits, is for the text of the open line, and was asked for `here`. -/
structure Ticking (here : Effect → Prop) (b : Browser) (waiting : List Effect) : Prop where
  nodup : (tokens waiting).Nodup
  le : ∀ n ∈ tokens waiting, n ≤ b.search.token
  live : ∀ delay text token, .searchTick delay text token ∈ waiting → token = b.search.token →
    b.search.active = true ∧ text = b.search.input ∧ here (.searchTick delay text token)

variable {here there : Effect → Prop} {waiting : List Effect} {e : Event}

theorem tokens_settle (waiting : List Effect) (e : Event) :
    (tokens (settle waiting e)).Sublist (tokens waiting) := List.eraseP_sublist.filterMap _

/-- Where no tick is asked for, those that wait are some of those that waited. -/
theorem Ticking.untyped (h : Ticking here b waiting) (hn : tokens s.2 = [])
    (ht : b.search.token ≤ s.1.search.token)
    (hl : b.search.active = true → s.1.search.token = b.search.token →
      s.1.line = b.line ∧ ∀ x, here x → there x) :
    Ticking there s.1 (settle waiting e ++ s.2) := by
  have hs : (tokens (settle waiting e ++ s.2)).Sublist (tokens waiting) := by
    rw [tokens_append, hn, List.append_nil]
    exact tokens_settle waiting e
  refine ⟨h.nodup.sublist hs, fun n hm => Nat.le_trans (h.le n (hs.subset hm)) ht, ?_⟩
  intro delay text token hm hlive
  rcases List.mem_append.1 hm with hm | hm
  · have hm := List.mem_of_mem_eraseP hm
    have hle := h.le token (token_mem_tokens hm)
    obtain ⟨ha, hi, hh⟩ := h.live delay text token hm (by omega)
    obtain ⟨hline, hthere⟩ := hl ha (by omega)
    simp only [line, Prod.mk.injEq] at hline
    exact ⟨hline.2.1.trans ha, hi.trans hline.2.2.1.symm, hthere _ hh⟩
  · have hm := token_mem_tokens hm
    rw [hn] at hm
    cases hm

theorem Ticking.update (h : Ticking here b waiting)
    (hl : (b.update e).1.view.level = b.view.level → ∀ x, here x → there x)
    (hx : ∀ x ∈ (b.update e).2, there x) :
    Ticking there (b.update e).1 (settle waiting e ++ (b.update e).2) := by
  cases update_pulse b e with
  | kept hn ht hk =>
    refine h.untyped hn (Nat.le_of_eq ht.symm) fun ha _ => ⟨hk ha, hl ?_⟩
    exact congrArg (·.2.2.2) (hk ha)
  | voided hn ht => exact h.untyped hn (Nat.le_of_lt ht) fun _ he => by omega
  | typed delay hs ht ha =>
    have hlast {n : Nat} (hm : n ∈ tokens (settle waiting e)) : n < (b.update e).1.search.token := by
      have := h.le n ((tokens_settle waiting e).subset hm)
      omega
    have htok : tokens (settle waiting e ++ (b.update e).2) =
        tokens (settle waiting e) ++ [(b.update e).1.search.token] := by
      rw [tokens_append, hs]
      rfl
    refine ⟨?_, fun n hm => ?_, fun delay' text token hm hlive => ?_⟩
    · rw [htok]
      refine (h.nodup.sublist (tokens_settle waiting e)).append (List.nodup_singleton _) ?_
      intro n hm hn
      rw [List.mem_singleton.1 hn] at hm
      exact Nat.lt_irrefl _ (hlast hm)
    · rw [htok] at hm
      rcases List.mem_append.1 hm with hm | hm
      · exact Nat.le_of_lt (hlast hm)
      · exact Nat.le_of_eq (List.mem_singleton.1 hm)
    · rcases List.mem_append.1 hm with hm | hm
      · have := hlast (token_mem_tokens hm)
        omega
      · have hthere := hx _ hm
        rw [hs] at hm
        cases List.mem_singleton.1 hm
        exact ⟨ha, rfl, hthere⟩

/-! ## sessions -/

/-- A step of the session asked for the effect, at the level that is on screen. -/
def AskedHere (c : Config) (es : List Event) (x : Effect) : Prop :=
  ∃ before e after, es = before ++ e :: after ∧ x ∈ ((session c before).1.update e).2 ∧
    ((session c before).1.update e).1.view.level = (session c es).1.view.level

theorem session_ticking (c : Config) (es : List Event) :
    Ticking (AskedHere c es) (session c es).1 (owed c es) := by
  induction es using List.reverseRecOn with
  | nil =>
    have hn : tokens (owed c []) = [] := rfl
    refine ⟨by rw [hn]; exact List.nodup_nil, fun n h => ?_, fun delay text token h => ?_⟩
    · rw [hn] at h; cases h
    · have h := token_mem_tokens h
      rw [hn] at h; cases h
  | append_singleton es e ih =>
    rw [owed_concat, session_concat]
    refine ih.update (fun hl x hx => ?_) fun x hx => ⟨es, e, [], rfl, hx, by rw [session_concat]⟩
    obtain ⟨before, f, after, rfl, hm, hf⟩ := hx
    refine ⟨before, f, after ++ [e], by simp, hm, ?_⟩
    rw [session_concat]
    exact hf.trans hl.symm

/-! ## what a tick searches for -/

theorem applyQuery_seeks (query : String) {x : Effect} (hx : x ∈ (b.applyQuery query).2) :
    x.Seeks query := by
  unfold applyQuery at hx
  dsimp only at hx
  split at hx
  · split at hx
    · unfold clearSearch at hx
      dsimp only at hx
      split at hx
      · cases hx
      · rw [List.mem_singleton.1 hx]; trivial
    · rw [List.mem_singleton.1 hx]; exact rfl
  · rw [List.mem_singleton.1 hx]; exact rfl
  · rw [List.mem_singleton.1 hx]; exact rfl
  · cases hx

/-- **Of the ticks that are owed, at most one is of the line.  The line is open then and holds the
text of the tick, at the level where it was typed, and the tick searches for just that text.  All
others change nothing.** -/
theorem ticks_sound (c : Config) (es : List Event) :
    let b := (session c es).1
    (tokens (owed c es)).count b.search.token ≤ 1 ∧
      ∀ delay text token, .searchTick delay text token ∈ owed c es →
        (token = b.search.token →
          b.search.active = true ∧ text = b.search.input ∧
            AskedHere c es (.searchTick delay text token) ∧
            ∀ x ∈ (b.update (.searchTick text token)).2, x.Seeks (trim b.search.input)) ∧
        (token ≠ b.search.token → b.update (.searchTick text token) = b.still) := by
  intro b
  have h := session_ticking c es
  refine ⟨List.nodup_iff_count_le_one.1 h.nodup _, fun delay text token hx => ⟨?_, fun hn => ?_⟩⟩
  · intro ht
    obtain ⟨ha, hi, hh⟩ := h.live delay text token hx ht
    refine ⟨ha, hi, hh, fun x hm => ?_⟩
    have hm : x ∈ (b.ticked text token).2 := hm
    rw [ticked, if_pos ht, hi] at hm
    exact applyQuery_seeks _ hm
  · exact if_neg hn

/-- A letter is typed over rows, erased and typed again: the first tick is void, the last is for
what stands in the line. -/
theorem ticks_sound_while_typing :
    let es : List Event := [.key (.char '/'), .key (.char 'o'), .key .backspace, .key (.char 'n')]
    let b := (session {} es).1
    b.update (.searchTick "o" 1) = b.still ∧ "n" = b.search.input := by
  intro es b
  have h := (ticks_sound {} es).2
  exact ⟨(h 100 "o" 1 (by decide +kernel)).2 (by decide +kernel),
    ((h 100 "n" 3 (by decide +kernel)).1 (by decide +kernel)).2.1⟩

end Browser
end MailBrowser
