import MailBrowser.Calendar.Instant
import MailBrowser.Text.Numeral

/-!
# Written dates and instants

* `yearChars`        four digits, or a sign and at least four where four are not enough;
* `Date.written`     `2024-01-15`;
* `Instant.written`  `2024-01-15T09:30:00Z`, the fraction in 3, 6 or 9 digits if there is one;
* `Instant.toMinute`, `Instant.compact`, `Instant.dayOfYear`   the other forms that are shown.
-/

namespace MailBrowser
open Text

def yearChars (y : Int) : List Char :=
  if 0 ≤ y ∧ y ≤ 9999 then fixed 4 y.toNat
  else (if y < 0 then '-' else '+') :: padded 4 y.natAbs

namespace Date

def monthChars (d : Date) : List Char := yearChars d.year ++ '-' :: fixed 2 d.month

def chars (d : Date) : List Char := d.monthChars ++ '-' :: fixed 2 d.day

def written (d : Date) : String := .ofList d.chars

end Date

namespace Instant

/-- the fewest of 3, 6 or 9 digits that hold the fraction, after a point; nothing for zero -/
def fractionChars (nano : Nat) : List Char :=
  if nano = 0 then []
  else if nano % 1000000 = 0 then '.' :: fixed 3 (nano / 1000000)
  else if nano % 1000 = 0 then '.' :: fixed 6 (nano / 1000)
  else '.' :: fixed 9 nano

def timeChars (t : Instant) : List Char :=
  fixed 2 t.hour ++ ':' :: fixed 2 t.minute ++ ':' :: fixed 2 t.shownSecond

def chars (t : Instant) : List Char :=
  t.date.chars ++ 'T' :: t.timeChars ++ fractionChars t.shownNano ++ ['Z']

def written (t : Instant) : String := .ofList t.chars

/-- as in `2024-01-15 09:30` -/
def toMinute (t : Instant) : String :=
  .ofList (t.date.chars ++ ' ' :: fixed 2 t.hour ++ ':' :: fixed 2 t.minute)

/-- as in `20240115-093000` -/
def compact (t : Instant) : String :=
  .ofList (yearChars t.date.year ++ fixed 2 t.date.month ++ fixed 2 t.date.day ++
    '-' :: fixed 2 t.hour ++ fixed 2 t.minute ++ fixed 2 t.shownSecond)

def monthNames : List String :=
  ["Jan", "Feb", "Mar", "Apr", "May", "Jun", "Jul", "Aug", "Sep", "Oct", "Nov", "Dec"]

/-- as in `Jan 15  2024` -/
def dayOfYear (t : Instant) : String :=
  (monthNames[t.date.month - 1]?).getD "" ++
    .ofList (' ' :: fixed 2 t.date.day ++ ' ' :: ' ' :: yearChars t.date.year)

end Instant
end MailBrowser
