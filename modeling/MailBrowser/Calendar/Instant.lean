import MailBrowser.Calendar.Date

/-!
# Instants

A point of time, counted in seconds of Universal Time from the start of 1970, with a fraction in
nanoseconds.  A leap second is written as a fraction of one second or more on the last second of
a minute, so that every day keeps its 86400 numbered seconds.

* `Instant`           the second and the fraction, inside the span of years of `Date`;
* `Instant.make?`     an instant of two numbers, if they name one;
* `Instant.atSecond`  a whole second, the nearest one kept;
* `Instant.date`      the day of an instant; `hour`, `minute`, `shownSecond` its time of day;
* `Instant.before`    the order of instants.
-/

namespace MailBrowser

structure Instant where
  second : Int
  nano : Nat
  nano_lt : nano < 1000000000 ∨ nano < 2000000000 ∧ second % 60 = 59
  in_span : -8334601228800 ≤ second ∧ second ≤ 8210266876799
deriving DecidableEq

namespace Instant

def make? (second : Int) (nano : Nat) : Option Instant :=
  if h : (nano < 1000000000 ∨ nano < 2000000000 ∧ second % 60 = 59) ∧
      (-8334601228800 ≤ second ∧ second ≤ 8210266876799) then
    some ⟨second, nano, h.1, h.2⟩
  else none

def atSecond (s : Int) : Instant where
  second := max (-8334601228800) (min s 8210266876799)
  nano := 0
  nano_lt := .inl (by decide)
  in_span := by omega

def epoch : Instant := atSecond 0

instance : Inhabited Instant := ⟨epoch⟩

def day (t : Instant) : Int := t.second / 86400

def date (t : Instant) : Date := .ofDays t.day

def secondOfDay (t : Instant) : Nat := (t.second % 86400).toNat

def hour (t : Instant) : Nat := t.secondOfDay / 3600

def minute (t : Instant) : Nat := t.secondOfDay / 60 % 60

/-- the second of the minute, 60 in a leap second -/
def shownSecond (t : Instant) : Nat := t.secondOfDay % 60 + t.nano / 1000000000

/-- the fraction of the shown second -/
def shownNano (t : Instant) : Nat := t.nano % 1000000000

def before (a b : Instant) : Bool :=
  a.second < b.second || (a.second == b.second && a.nano < b.nano)

end Instant
end MailBrowser
