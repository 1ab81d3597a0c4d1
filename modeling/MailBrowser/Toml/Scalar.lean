import MailBrowser.Calendar.Date
import MailBrowser.Text.Numeral

/-!
# Scalars of a settings file

A value that is no text, list or table is one run of letters, digits and signs.  Of these only
whole numbers are kept; the others are only checked.

* `Toml.whole?`      a whole number of 64 bits, decimal or with one of the three other bases;
* `Toml.isReal`      a number with a fraction or an exponent, or one that is no number;
* `Toml.isTime`      a date, a time of day, or both with or without a zone.
-/

namespace MailBrowser
open Text

namespace Toml

/-! ## numbers -/

/-- digits with single underscores between them, which are taken out -/
def underscored (p : Char → Bool) : List Char → Option (List Char)
  | [] => none
  | [c] => if p c then some [c] else none
  | c :: '_' :: r => if p c then (underscored p r).map (c :: ·) else none
  | c :: r => if p c then (underscored p r).map (c :: ·) else none

def isHexDigit (c : Char) : Bool := (hexValue? c).isSome

def isOctalDigit (c : Char) : Bool := '0' ≤ c && c ≤ '7'

def isBinaryDigit (c : Char) : Bool := c == '0' || c == '1'

def valueIn (base : Nat) (cs : List Char) : Nat :=
  cs.foldl (fun n c => base * n + (hexValue? c).getD 0) 0

/-- decimal digits without a zero in front -/
def plainDigits? (cs : List Char) : Option (List Char) := do
  let ds ← underscored Char.isDigit cs
  if ds.head? = some '0' ∧ ds.length ≠ 1 then none else some ds

def dropSign : List Char → List Char
  | '+' :: r | '-' :: r => r
  | r => r

def largest : Int := 9223372036854775807

def inRange (n : Int) : Option Int := if -largest - 1 ≤ n ∧ n ≤ largest then some n else none

def whole? (cs : List Char) : Option Int :=
  match cs with
  | '0' :: 'x' :: r => (underscored isHexDigit r).bind fun ds => inRange (valueIn 16 ds)
  | '0' :: 'o' :: r => (underscored isOctalDigit r).bind fun ds => inRange (valueIn 8 ds)
  | '0' :: 'b' :: r => (underscored isBinaryDigit r).bind fun ds => inRange (valueIn 2 ds)
  | '-' :: r => (plainDigits? r).bind fun ds => inRange (-(digitsValue ds : Int))
  | r => (plainDigits? (dropSign r)).bind fun ds => inRange (digitsValue ds)

def isDigitOrScore (c : Char) : Bool := c.isDigit || c == '_'

/-- a mark of an exponent with its number -/
def exponent? : List Char → Option Int
  | 'e' :: r | 'E' :: r =>
    (underscored Char.isDigit (dropSign r)).map fun ds =>
      if r.head? = some '-' then -(digitsValue ds : Int) else digitsValue ds
  | _ => none

/-- the least number that is nearer to `2 ^ 1024` than to any double below it -/
def leastHuge : Nat := Nat.pow 2 1024 - Nat.pow 2 970

/-- Whether `n * 10 ^ e` is below `leastHuge`.  The count of its digits settles most cases, so that
no power is taken of a number much larger than what was written. -/
def isDouble (n : Nat) (e : Int) : Bool :=
  let size := (digits n).length + e
  n = 0 || size ≤ 300 ||
    (size ≤ 310 &&
      if 0 ≤ e then n * Nat.pow 10 e.toNat < leastHuge else n < leastHuge * Nat.pow 10 (-e).toNat)

/-- the digits of a number with a fraction or an exponent, and the power of ten they are times -/
def realParts? (cs : List Char) : Option (Nat × Int) := do
  let ds ← plainDigits? (cs.takeWhile isDigitOrScore)
  match cs.dropWhile isDigitOrScore with
  | '.' :: r =>
    let part ← underscored Char.isDigit (r.takeWhile isDigitOrScore)
    let n := digitsValue (ds ++ part)
    match r.dropWhile isDigitOrScore with
    | [] => some (n, -part.length)
    | r => (exponent? r).map fun e => (n, e - part.length)
  | r => (exponent? r).map fun e => (digitsValue ds, e)

/-- A number that is too large is refused, unless it has a minus sign. -/
def isReal (cs : List Char) : Bool :=
  let size := dropSign cs
  size = ['i', 'n', 'f'] || size = ['n', 'a', 'n'] ||
    (realParts? size).any fun (n, e) => cs.head? = some '-' || isDouble n e

/-! ## times -/

/-- a number of exactly `w` digits, and what follows -/
def fixedNumber? (w : Nat) (cs : List Char) : Option (Nat × List Char) :=
  let ds := cs.take w
  if ds.length = w ∧ ds.all Char.isDigit then some (digitsValue ds, cs.drop w) else none

def dropMark? (c : Char) : List Char → Option (List Char)
  | d :: r => if d = c then some r else none
  | [] => none

/-- what follows a date that exists -/
def dateEnd? (cs : List Char) : Option (List Char) := do
  let (y, cs) ← fixedNumber? 4 cs
  let cs ← dropMark? '-' cs
  let (m, cs) ← fixedNumber? 2 cs
  let cs ← dropMark? '-' cs
  let (d, cs) ← fixedNumber? 2 cs
  if (Date.make? y m d).isSome then some cs else none

/-- what follows a time of day -/
def clockEnd? (cs : List Char) : Option (List Char) := do
  let (h, cs) ← fixedNumber? 2 cs
  let cs ← dropMark? ':' cs
  let (m, cs) ← fixedNumber? 2 cs
  let cs ← dropMark? ':' cs
  let (s, cs) ← fixedNumber? 2 cs
  if h ≤ 23 ∧ m ≤ 59 ∧ s ≤ 60 then
    match cs with
    | '.' :: r =>
      if (r.takeWhile Char.isDigit).isEmpty then none else some (r.dropWhile Char.isDigit)
    | r => some r
  else none

def isZone (cs : List Char) : Bool :=
  match cs with
  | [] | ['Z'] | ['z'] => true
  | c :: r =>
    (c == '+' || c == '-') &&
      match fixedNumber? 2 r with
      | some (h, ':' :: r) =>
        match fixedNumber? 2 r with
        | some (m, []) => h ≤ 23 && m ≤ 59
        | _ => false
      | _ => false

def isTime (cs : List Char) : Bool :=
  match dateEnd? cs with
  | some [] => true
  | some (c :: r) =>
    (c == 'T' || c == 't' || c == ' ') && ((clockEnd? r).map isZone).getD false
  | none => clockEnd? cs = some []

end Toml
end MailBrowser
