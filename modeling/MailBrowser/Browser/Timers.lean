import MailBrowser.Browser.Desk

/-!
# Timers

Timers of a desk on a clock of milliseconds.

* `Effect.delay?`   how long a timer runs;
* `Alarm`           a timer with the time when it is due;
* `Desk.wind`       takes the waiting timers of a desk and sets them to a clock;
* `Alarm.ring`      the effects whose time has come, earliest first, and the alarms that are left.
-/

namespace MailBrowser

def Effect.delay? : Effect → Option Nat
  | .searchTick delay _ _ | .expireFlash delay _ => some delay
  | _ => none

theorem Effect.isSome_delay? (e : Effect) : e.delay?.isSome = e.isTimer := by cases e <;> rfl

structure Alarm where
  due : Nat
  effect : Effect

def Desk.wind (d : Desk) (clock : Nat) : Desk × List Alarm :=
  ({ d with waiting := d.waiting.filter fun e => !e.isTimer },
    d.waiting.filterMap fun e => e.delay?.map fun delay => ⟨clock + delay, e⟩)

def Alarm.ring (clock : Nat) (alarms : List Alarm) : List Effect × List Alarm :=
  let (due, later) := alarms.partition fun a => decide (a.due ≤ clock)
  ((due.mergeSort fun a b => decide (a.due ≤ b.due)).map Alarm.effect, later)

theorem Alarm.lt_of_mem_ring {clock : Nat} {alarms : List Alarm} {a : Alarm}
    (h : a ∈ (Alarm.ring clock alarms).2) : clock < a.due := by
  simp only [ring, List.partition_eq_filter_filter, List.mem_filter] at h
  simpa using h.2

end MailBrowser
