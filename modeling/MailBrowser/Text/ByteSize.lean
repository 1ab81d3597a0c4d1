import MailBrowser.Text.Numeral

/-!
# Byte counts

A count below 1024 is written in bytes; a larger one in the unit that leaves less than 1024 of
it, up to terabytes, with one decimal.  The count is first brought to 53 significant bits; a half
of the last decimal goes to the even neighbour, at both steps.

* `roundDiv`     the quotient rounded to the nearest number, a half to the even one;
* `sizeText`     the written count.
-/

namespace MailBrowser.Text

def roundDiv (n d : Nat) : Nat :=
  let q := n / d
  let r := n % d
  if 2 * r < d then q else if d < 2 * r then q + 1 else q + q % 2

/-- a number brought to 53 significant bits -/
def significant (n : Nat) : Nat :=
  let extra := n.log2 - 52
  roundDiv n (Nat.pow 2 extra) * Nat.pow 2 extra

def sizeUnits : List String := ["KB", "MB", "GB", "TB"]

/-- the power of 1024 of the unit, between 1 and 4 -/
def sizePower (n : Nat) : Nat :=
  if n < Nat.pow 1024 2 then 1 else if n < Nat.pow 1024 3 then 2
  else if n < Nat.pow 1024 4 then 3 else 4

def sizeText (bytes : Int) : String :=
  if bytes < 1024 then decimal bytes ++ " B"
  else
    let n := significant bytes.toNat
    let p := sizePower n
    let tenths := roundDiv (n * 10) (Nat.pow 1024 p)
    .ofList (digits (tenths / 10) ++ ['.'] ++ digits (tenths % 10)) ++ " " ++
      (sizeUnits[p - 1]?).getD ""

end MailBrowser.Text
