import MailBrowser.Calendar.Written
import MailBrowser.Text.Case

/-!
# Reading dates and instants

* `readDate?`         the date that a whole text is, with blanks allowed before each number;
* `Instant.read?`     the instant that a whole text is: a date, a time of day and a zone.

Each step takes the characters that are left and gives back a value and what it left over.
-/

namespace MailBrowser
open Text

namespace Calendar

/-- a value read and the characters after it -/
abbrev Read (α : Type) := Option (α × List Char)

def skipBlanks (cs : List Char) : List Char := cs.dropWhile isBlank

/-- a number of at least one and at most `limit` digits -/
def number? (limit : Nat) (cs : List Char) : Read Nat :=
  match (cs.take limit).takeWhile Char.isDigit with
  | [] => none
  | ds => some (digitsValue ds, cs.drop ds.length)

/-- a number after blanks -/
def field? (limit : Nat) (cs : List Char) : Read Nat := number? limit (skipBlanks cs)

/-- A year with a sign may have any number of digits, one without has at most four. -/
def year? (cs : List Char) : Read Int :=
  match skipBlanks cs with
  | '-' :: r => (number? r.length r).map fun (n, r) => (-(n : Int), r)
  | '+' :: r => (number? r.length r).map fun (n, r) => ((n : Int), r)
  | r => (number? 4 r).map fun (n, r) => ((n : Int), r)

/-- a mark, after blanks if `loose` -/
def mark? (loose : Bool) (c : Char) (cs : List Char) : Read Unit :=
  match if loose then skipBlanks cs else cs with
  | [] => none
  | d :: r => if d = c then some ((), r) else none

/-- year, month and day with dashes between them -/
def dateFields? (loose : Bool) (cs : List Char) : Option (Date × List Char) := do
  let (y, cs) ← year? cs
  let (_, cs) ← mark? loose '-' cs
  let (m, cs) ← field? 2 cs
  let (_, cs) ← mark? loose '-' cs
  let (d, cs) ← field? 2 cs
  let date ← Date.make? y m d
  some (date, cs)

/-- The fraction of a second, cut after nine digits. -/
def fraction? (cs : List Char) : Read Nat :=
  match cs with
  | '.' :: r =>
    match (r.take 9).takeWhile Char.isDigit with
    | [] => none
    | ds => some (digitsValue ds * Nat.pow 10 (9 - ds.length), r.dropWhile Char.isDigit)
  | r => some (0, r)

/-- The time of day in seconds, and the nanoseconds: the second 60 is the 59th and one more. -/
def timeFields? (cs : List Char) : Option ((Nat × Nat) × List Char) := do
  let (h, cs) ← field? 2 cs
  let (_, cs) ← mark? true ':' cs
  let (m, cs) ← field? 2 cs
  let (_, cs) ← mark? true ':' cs
  let (s, cs) ← field? 2 cs
  let (f, cs) ← fraction? cs
  if h ≤ 23 ∧ m ≤ 59 ∧ s ≤ 60 then
    let extra := if s = 60 then 1000000000 else 0
    some ((h * 3600 + m * 60 + min s 59, f + extra), cs)
  else none

/-- two digits, the first of which is below `bound` -/
def twoDigits? (bound : Nat) : List Char → Read Nat
  | a :: b :: r =>
    if a.isDigit ∧ b.isDigit ∧ digitValue a < bound then
      some (digitValue a * 10 + digitValue b, r)
    else none
  | _ => none

/-- the seconds that a zone is east of Universal Time -/
def zone? (cs : List Char) : Option (Int × List Char) :=
  match cs with
  | 'Z' :: r | 'z' :: r => some (0, r)
  | c :: r =>
    if (cs.take 3).map Char.toLower = ['u', 't', 'c'] then some (0, cs.drop 3)
    else do
      let east ← if c = '+' then some true else if c = '-' ∨ c = '−' then some false else none
      let (h, r) ← twoDigits? 10 r
      let (m, r) ← twoDigits? 6 (r.dropWhile fun c => c == ':' || isBlank c)
      if h < 24 then
        let s : Int := h * 3600 + m * 60
        some (if east then s else -s, r)
      else none
  | [] => none

end Calendar

open Calendar

def readDate? (s : String) : Option Date :=
  match dateFields? false s.toList with
  | some (d, []) => some d
  | _ => none

def Instant.read? (s : String) : Option Instant := do
  let (d, cs) ← dateFields? true s.toList
  let cs ← match cs with
    | 't' :: r | 'T' :: r | ' ' :: r => some r
    | _ => none
  let ((second, nano), cs) ← timeFields? cs
  let (east, cs) ← zone? (skipBlanks cs)
  if cs.all isBlank then Instant.make? (d.toDays * 86400 + second - east) nano else none

end MailBrowser
