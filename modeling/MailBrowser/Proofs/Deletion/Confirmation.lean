import Mathlib.Data.List.Induction
import MailBrowser.Proofs.Browser.Work

/-!
# The confirmation of a deletion

A deletion is built into a batch, the batch is confirmed or declined, and a confirmed one is saved.

* `concludes`            the events that end a deletion;
* `Underway`             a deletion that has not ended, `update_underway` one event of it;
* `Undecided`            a run in which it does not end; `run_underway` what is marked stays then;
* `save_asked`           who asks for a batch to be saved;
* `BuiltLast`            the batch that is to be confirmed, and where it comes from;
* `deletion_confirmed`   the whole protocol.
-/

namespace MailBrowser
namespace Browser

variable {b : Browser} {waiting : List Effect} {e : Event}

/-! ## a deletion under way -/

/-- A batch cannot be built, is declined, is saved or cannot be saved. -/
def concludes (b : Browser) : Event → Bool
  | .manifestBuilt (.error _) => true
  | .manifestSaved _ => true
  | .key k => b.confirming?.isSome && isNo k
  | _ => false

def Undecided (b : Browser) : List Event → Prop
  | [] => True
  | e :: es => b.concludes e = false ∧ Undecided (b.update e).1 es

instance decidableUndecided : (b : Browser) → (es : List Event) → Decidable (Undecided b es)
  | _, [] => inferInstanceAs (Decidable True)
  | b, e :: es =>
    have := decidableUndecided (b.update e).1 es
    inferInstanceAs (Decidable (b.concludes e = false ∧ Undecided (b.update e).1 es))

inductive Underway (b : Browser) (work : List Effect) : Prop where
  | building (q : StageRequest) (hw : work = [.buildManifest q])
  | asking (s : StagedBatch) (hw : work = []) (hd : b.dialog = some (.deletion s))
  | saving (m : Manifest) (hw : work = [.saveManifest m])

/-- A deletion that was asked for is under way. -/
theorem underway_of_asked {work : List Effect} (h : AtWork b work) {q : StageRequest}
    (hq : .buildManifest q ∈ work) : Underway b work := by
  cases h with
  | idle hw hb => rw [hw] at hq; cases hq
  | busy x hw hb hd =>
    rw [hw] at hq
    obtain rfl := List.mem_singleton.1 hq
    exact .building q hw

/-- Keys wait while a batch is built or saved. -/
theorem AtWork.busy_of_cons {x : Effect} {work : List Effect} (h : AtWork b work)
    (hw : work = [x]) : b.busy.isSome = true := by
  cases h with
  | idle hn hb => rw [hn] at hw; cases hw
  | busy y hy hb hd => exact hb

theorem AtWork.busy_of_nil {work : List Effect} (h : AtWork b work) (hw : work = []) :
    b.busy = none := by
  cases h with
  | idle hn hb => exact hb
  | busy y hy hb hd => rw [hw] at hy; cases hy

theorem press_busy_aside (h : b.busy.isSome = true) (k : Key) : Aside b (b.press k) := by
  rcases press_busy h k with hp | hp
  · rw [hp]; exact .of_rfl rfl
  · rw [hp]; exact .of_rfl rfl

/-- a step beside a deletion -/
theorem Aside.underway {s : Step} (h : Aside b s) {work : List Effect} (hu : Underway b work) :
    s.1.selection = b.selection ∧ Underway s.1 (work ++ jobs s.2) := by
  rw [h.jobs, List.append_nil]
  refine ⟨h.selection, ?_⟩
  cases hu with
  | building q hw => exact .building q hw
  | asking s hw hd => exact .asking s hw (h.dialog.trans hd)
  | saving m hw => exact .saving m hw

theorem press_underway {work : List Effect} (ha : AtWork b work) (hu : Underway b work) {k : Key}
    (hc : b.concludes (.key k) = false) :
    (b.press k).1.selection = b.selection ∧ Underway (b.press k).1 (work ++ jobs (b.press k).2) := by
  cases hu with
  | building q hw =>
    exact (press_busy_aside (ha.busy_of_cons hw) k).underway (.building q hw)
  | saving m hw =>
    exact (press_busy_aside (ha.busy_of_cons hw) k).underway (.saving m hw)
  | asking s hw hd =>
    rcases press_confirming (ha.busy_of_nil hw) hd k with ⟨-, hp⟩ | ⟨hn, -⟩ | ⟨-, hp | hp⟩
    · rw [hp, hw]
      exact ⟨rfl, .saving s.manifest rfl⟩
    · -- no is what concludes a deletion
      have hs : (b.confirming?.isSome && isNo k) = false := hc
      rw [confirming_iff.2 hd, hn] at hs
      cases hs
    · rw [hp]
      exact (Aside.of_rfl rfl : Aside b b.quit).underway (.asking s hw hd)
    · rw [hp]
      exact (Aside.of_rfl rfl : Aside b b.still).underway (.asking s hw hd)

/-- A batch that was built is to be confirmed, and a batch that was saved concludes. -/
theorem report_underway {work : List Effect} (hu : Underway b work) {x : Effect} (hw : work = [x])
    (ho : Outcome x e) (hc : b.concludes e = false) :
    (b.update e).1.selection = b.selection ∧ Underway (b.update e).1 (jobs (b.update e).2) := by
  cases hu with
  | asking s hn hd => rw [hn] at hw; cases hw
  | building q hq =>
    rw [hw, List.cons.injEq] at hq
    obtain ⟨rfl, -⟩ := hq
    cases ho with
    | built q r =>
      cases r with
      | ok s => exact ⟨rfl, .asking s rfl rfl⟩
      | error d => cases hc
  | saving m hm =>
    rw [hw, List.cons.injEq] at hm
    obtain ⟨rfl, -⟩ := hm
    cases ho with
    | saved m r => cases hc

/-- **While a deletion is under way, nothing is marked or unmarked.** -/
theorem update_underway (ha : AtWork b (jobs waiting)) (hu : Underway b (jobs waiting))
    (ho : e.isReport = true → ∃ x ∈ waiting, Outcome x e) (hc : b.concludes e = false) :
    (b.update e).1.selection = b.selection ∧
      Underway (b.update e).1 (jobs (settle waiting e ++ (b.update e).2)) := by
  rw [jobs_append]
  by_cases hr : e.isReport = true
  · cases ha with
    | idle hw hb =>
      rw [not_report hw ho] at hr
      cases hr
    | busy x hw hb hd =>
      obtain ⟨hxe, hn⟩ := jobs_settle_report hr hw (ho hr)
      rw [hn, List.nil_append]
      exact report_underway hu hw hxe hc
  · have hr : e.isReport = false := by simpa using hr
    rw [jobs_settle_aside hr]
    by_cases hk : ∃ k, e = .key k
    · obtain ⟨k, rfl⟩ := hk
      exact press_underway ha hu hc
    · exact (update_aside (fun k he => hk ⟨k, he⟩) hr).underway hu

theorem run_underway {es : List Event} (ha : AtWork b (jobs waiting))
    (hu : Underway b (jobs waiting)) (hr : Reported b waiting es) (hc : Undecided b es) :
    (b.run es).1.selection = b.selection := by
  induction es generalizing b waiting with
  | nil => rfl
  | cons e es ih =>
    obtain ⟨hs, hu'⟩ := update_underway ha hu hr.1 hc.1
    exact (ih (update_atWork ha hr.1) hu' hr.2 hc.2).trans hs

/-- What concludes a deletion keeps what is marked, unless a batch is saved. -/
theorem selection_of_concludes (hc : b.concludes e = true) (hs : ∀ r, e ≠ .manifestSaved (.ok r)) :
    (b.update e).1.selection = b.selection := by
  cases e with
  | key k =>
    have hc : (b.confirming?.isSome && isNo k) = true := hc
    rw [Bool.and_eq_true] at hc
    obtain ⟨d, hd⟩ := Option.isSome_iff_exists.1 hc.1
    cases hb : b.busy with
    | some text => exact (press_busy_aside (by rw [hb]; rfl) k).selection
    | none =>
      show (b.press k).1.selection = _
      rcases press_confirming hb (confirming_iff.1 hd) k with ⟨-, hp⟩ | ⟨-, hp⟩ | ⟨-, hp | hp⟩
      all_goals
        rw [hp]
        try rfl
  | manifestBuilt r =>
    cases r with
    | ok s => cases hc
    | error d =>
      show (b.manifestBuilt (.error d)).1.selection = _
      cases d <;> rfl
  | manifestSaved r =>
    cases r with
    | ok s => exact absurd rfl (hs s)
    | error d => rfl
  | _ => cases hc

/-! ## the batch that is saved -/

theorem mem_jobs_save {m : Manifest} {xs : List Effect} (h : .saveManifest m ∈ xs) :
    .saveManifest m ∈ jobs xs := List.mem_filter.2 ⟨h, rfl⟩

/-- Only yes to a batch asks for it to be saved, and shuts its dialog. -/
theorem save_asked {m : Manifest} (h : .saveManifest m ∈ (b.update e).2) :
    (e = .key (.char 'y') ∨ e = .key (.char 'Y')) ∧ (b.update e).2 = [.saveManifest m] ∧
      (b.update e).1.dialog = none ∧ ∃ s, b.dialog = some (.deletion s) ∧ s.manifest = m := by
  have hj := mem_jobs_save h
  by_cases hr : e.isReport = true
  · rw [(report_idle (b := b) hr).2] at hj
    cases hj
  by_cases hk : ∃ k, e = .key k
  · obtain ⟨k, rfl⟩ := hk
    have hj : .saveManifest m ∈ jobs (b.press k).2 := hj
    cases hb : b.busy with
    | some text =>
      rw [(press_busy_aside (by rw [hb]; rfl) k).jobs] at hj
      cases hj
    | none =>
      cases hc : b.confirming? with
      | none =>
        cases (press_keyStep b k).onward hb hc with
        | idle hi hn hw => rw [hw] at hj; cases hj
        | begun x hw hx hi hd =>
          rw [hw] at hj
          exact absurd (List.mem_singleton.1 hj).symm (hx m)
      | some s =>
        have hd := confirming_iff.1 hc
        rcases press_confirming hb hd k with ⟨hy, hp⟩ | ⟨-, hp⟩ | ⟨-, hp | hp⟩
        · rw [hp] at hj
          have hm : m = s.manifest := by simpa [jobs, Effect.isJob] using hj
          have hy : k = .char 'y' ∨ k = .char 'Y' := by simpa [isYes] using hy
          show _ ∧ (b.press k).2 = _ ∧ (b.press k).1.dialog = none ∧ _
          rw [hp]
          exact ⟨hy.imp (congrArg Event.key) (congrArg Event.key), by rw [hm], rfl, s, hd, hm.symm⟩
        all_goals
          rw [hp] at hj
          cases hj
  · rw [(update_aside (b := b) (fun k he => hk ⟨k, he⟩) (by simpa using hr)).jobs] at hj
    cases hj

theorem report_dialog (hr : e.isReport = true) (hn : ∀ t, e ≠ .manifestBuilt (.ok t)) :
    (b.update e).1.dialog = b.dialog := by
  cases e with
  | manifestBuilt r =>
    cases r with
    | ok t => exact absurd rfl (hn t)
    | error d =>
      show (b.manifestBuilt (.error d)).1.dialog = _
      cases d <;> rfl
  | manifestSaved r => cases r <;> rfl
  | exportFinished r => cases r <;> rfl
  | _ => cases hr

theorem press_confirming_before {k : Key} {s : StagedBatch}
    (h : (b.press k).1.confirming? = some s) : b.confirming? = some s := by
  cases hb : b.busy with
  | some text =>
    rwa [confirming_congr (press_busy_aside (by rw [hb]; rfl) k).dialog] at h
  | none =>
    cases hc : b.confirming? with
    | none =>
      cases (press_keyStep b k).onward hb hc with
      | idle hi hn hw => rw [hn] at h; cases h
      | begun x hw hx hi hd => rw [confirming_none hd] at h; cases h
    | some t =>
      have hd := confirming_iff.1 hc
      rcases press_confirming hb hd k with ⟨-, hp⟩ | ⟨-, hp⟩ | ⟨-, hp | hp⟩
      · rw [hp] at h; cases h
      · rw [hp] at h; cases h
      · rw [hp] at h; exact hc.symm.trans h
      · rw [hp] at h; exact hc.symm.trans h

/-- A batch that is to be confirmed has just been built, or was to be confirmed before. -/
theorem confirming_update {s : StagedBatch} (h : (b.update e).1.confirming? = some s) :
    e = .manifestBuilt (.ok s) ∨ (b.confirming? = some s ∧ (∀ t, e ≠ .manifestBuilt (.ok t)) ∧
      ∀ m, .saveManifest m ∉ (b.update e).2) := by
  by_cases hb : ∃ t, e = .manifestBuilt (.ok t)
  · obtain ⟨t, rfl⟩ := hb
    have h : some t = some s := h
    rw [Option.some.inj h]
    exact .inl rfl
  have hn : ∀ t, e ≠ .manifestBuilt (.ok t) := fun t ht => hb ⟨t, ht⟩
  refine .inr ⟨?_, hn, fun m hm => ?_⟩
  · by_cases hr : e.isReport = true
    · rwa [confirming_congr (report_dialog hr hn)] at h
    by_cases hk : ∃ k, e = .key k
    · obtain ⟨k, rfl⟩ := hk
      exact press_confirming_before h
    · have ha := update_aside (b := b) (fun k he => hk ⟨k, he⟩) (by simpa using hr)
      rwa [confirming_congr ha.dialog] at h
  · obtain ⟨-, -, hd, -⟩ := save_asked hm
    rw [confirming_none hd] at h
    cases h

/-- No other batch has been built since, and none has been saved. -/
def BuiltLast (c : Config) (es : List Event) (s : StagedBatch) : Prop :=
  ∃ before after, es = before ++ .manifestBuilt (.ok s) :: after ∧
    (∀ t, .manifestBuilt (.ok t) ∉ after) ∧
    ∀ m, .saveManifest m ∉ (((session c before).1.update (.manifestBuilt (.ok s))).1.run after).2

theorem builtLast_of_confirming {c : Config} {es : List Event} {s : StagedBatch}
    (h : (session c es).1.confirming? = some s) : BuiltLast c es s := by
  induction es using List.reverseRecOn with
  | nil => cases h
  | append_singleton es e ih =>
    rw [session_concat] at h
    rcases confirming_update h with rfl | ⟨hb, hn, hs⟩
    · refine ⟨es, [], rfl, fun t ht => ?_, fun m hm => ?_⟩
      · cases ht
      · cases hm
    · obtain ⟨before, after, rfl, ht, hm⟩ := ih hb
      refine ⟨before, after ++ [e], by simp, fun t h => ?_, fun m h => ?_⟩
      · rcases List.mem_append.1 h with h | h
        · exact ht t h
        · exact hn t (List.mem_singleton.1 h).symm
      · rw [run_append] at h
        rcases List.mem_append.1 h with h | h
        · exact hm m h
        · rw [session_append] at hs
          rw [run_cons, run_nil, List.append_nil] at h
          exact hs m h

/-! ## the protocol -/

/-- **In a session where only work that is owed is reported, and once, the browser is busy exactly
while one job is owed, and never are two.  A batch is saved only on yes to it, when it is the one
that was built last and has not been saved before.  From the request of a batch until it fails, is
declined or has been saved, nothing is marked or unmarked; only a batch that is saved clears the
marks.** -/
theorem deletion_confirmed {c : Config} {es : List Event}
    (hr : Reported (launch c).1 (launch c).2 es) :
    let b := (session c es).1
    let work := jobs (owed c es)
    (b.busy.isSome = true ↔ work.length = 1) ∧ work.length ≤ 1 ∧
      (∀ e m, .saveManifest m ∈ (b.update e).2 →
        (e = .key (.char 'y') ∨ e = .key (.char 'Y')) ∧ (b.update e).2 = [.saveManifest m] ∧
          ∃ s, b.dialog = some (.deletion s) ∧ s.manifest = m ∧ BuiltLast c es s) ∧
      (∀ before e after q, es = before ++ e :: after →
        let asked := (session c before).1.update e
        .buildManifest q ∈ asked.2 → Undecided asked.1 after → b.selection = asked.1.selection) ∧
      (∀ r, let s := (b.update (.manifestSaved (.ok r))).1.selection
        s.keys = .empty ∧ s.messages = .empty) ∧
      ∀ e, b.concludes e = true → (∀ r, e ≠ .manifestSaved (.ok r)) →
        (b.update e).1.selection = b.selection := by
  intro b work
  have ha : AtWork b work := session_atWork hr
  refine ⟨?_, ?_, ?_, ?_, fun r => ⟨rfl, rfl⟩, fun e => selection_of_concludes⟩
  · cases ha with
    | idle hw hb => rw [hw, hb]; decide
    | busy x hw hb hd => rw [hw, hb]; exact ⟨fun _ => rfl, fun _ => rfl⟩
  · cases ha with
    | idle hw hb => rw [hw]; decide
    | busy x hw hb hd => rw [hw]; exact Nat.le_refl 1
  · intro e m hm
    obtain ⟨he, hs, -, s, hd, hsm⟩ := save_asked hm
    exact ⟨he, hs, s, hd, hsm, builtLast_of_confirming (confirming_iff.2 hd)⟩
  · rintro before e after q rfl asked hq hu
    obtain ⟨hbefore, hafter⟩ := hr.split
    have hasked := update_atWork (session_atWork hbefore) hafter.1
    have hq : .buildManifest q ∈ jobs (settle (owed c before) e ++ asked.2) :=
      List.mem_filter.2 ⟨List.mem_append_right _ hq, rfl⟩
    have hsel := run_underway hasked (underway_of_asked hasked hq) hafter.2 hu
    show (session c (before ++ e :: after)).1.selection = _
    rw [session_append]
    exact hsel

/-- A sender is marked and staged.  When the batch has come, the mark is still there, and yes saves
that very batch. -/
theorem deletion_confirmed_for_a_sender :
    let staged : StagedBatch := { manifest := default }
    let marked : List Event :=
      [.rowsLoaded 1 (.ok [{ key := "alice@example.com" }]), .key (.char ' ')]
    let es := marked ++ .key (.char 'd') :: [.manifestBuilt (.ok staged), .resize 40]
    let b := (session {} es).1
    b.selection.keys.items = ["alice@example.com"] ∧
      (b.update (.key (.char 'y'))).2 = [.saveManifest staged.manifest] ∧
      ∃ s, b.dialog = some (.deletion s) ∧ s.manifest = staged.manifest ∧ BuiltLast {} es s := by
  intro staged marked es b
  obtain ⟨-, -, hsave, hkeep, -⟩ := @deletion_confirmed {} es (by decide +kernel)
  obtain ⟨-, hy, hs⟩ := hsave (.key (.char 'y')) staged.manifest (by decide +kernel)
  refine ⟨?_, hy, hs⟩
  have hsel : b.selection = _ :=
    hkeep marked (.key (.char 'd')) [.manifestBuilt (.ok staged), .resize 40]
      (session {} marked).1.stageRequest rfl (by decide +kernel) (by decide +kernel)
  rw [hsel]
  decide +kernel

end Browser
end MailBrowser
