/-!
# Numerals

* `decimal`        a number in decimal digits, with a minus sign if it is negative;
* `fixed`          the last `w` decimal digits of a number;
* `padded`         decimal digits, filled with zeros to a width;
* `hexFixed`       the last `w` hexadecimal digits;
* `digitsValue`    the number that a list of digits denotes.
-/

namespace MailBrowser.Text

/-- the digit of a number below sixteen, in lower case -/
def digitChar (n : Nat) : Char := Nat.digitChar n

/-- the last `w` digits in base `b`, most significant first -/
def fixedIn (b : Nat) : Nat → Nat → List Char
  | 0, _ => []
  | w + 1, n => fixedIn b w (n / b) ++ [digitChar (n % b)]

def fixed (w n : Nat) : List Char := fixedIn 10 w n

def hexFixed (w n : Nat) : List Char := fixedIn 16 w n

theorem length_fixedIn (b w n : Nat) : (fixedIn b w n).length = w := by
  induction w generalizing n with
  | zero => rfl
  | succ w ih => rw [fixedIn, List.length_append, ih]; rfl

def digits (n : Nat) : List Char := Nat.toDigits 10 n

def decimalChars : Int → List Char
  | .ofNat n => digits n
  | .negSucc n => '-' :: digits (n + 1)

def decimal (n : Int) : String := .ofList (decimalChars n)

def padded (w n : Nat) : List Char :=
  let ds := digits n
  List.replicate (w - ds.length) '0' ++ ds

def digitValue (c : Char) : Nat := c.toNat - 48

def digitsValue (cs : List Char) : Nat := cs.foldl (fun n c => 10 * n + digitValue c) 0

/-- the value of a hexadecimal digit of either case -/
def hexValue? (c : Char) : Option Nat :=
  if c.isDigit then some (c.toNat - 48)
  else if 'a' ≤ c ∧ c ≤ 'f' then some (c.toNat - 87)
  else if 'A' ≤ c ∧ c ≤ 'F' then some (c.toNat - 55)
  else none

end MailBrowser.Text
