import MailBrowser.Json.Value
import MailBrowser.Text.Numeral

/-!
# The tokens of a JSON text

* `Json.Token`       punctuation, or a value that has no parts;
* `Json.tokens?`     the tokens of a text, blanks left out.

A string is read into units first, a character or the code of an escape each; then the halves of
surrogate pairs are put together (`joinUnits`).
-/

namespace MailBrowser
open Text

namespace Json

inductive Token where
  | openList | closeList | openRec | closeRec | comma | colon
  | leaf (v : Json)

/-- a character as it stands, or the code of an escape of four hexadecimal digits -/
inductive StrUnit where
  | char (c : Char)
  | code (n : Nat)

/-! ## strings -/

def hexCode? (a b c d : Char) : Option Nat := do
  let a ← hexValue? a
  let b ← hexValue? b
  let c ← hexValue? c
  let d ← hexValue? d
  some (((a * 16 + b) * 16 + c) * 16 + d)

/-- the character of a short escape -/
def escaped? : Char → Option Char
  | '\x22' => some '\x22'
  | '\\' => some '\\'
  | '/' => some '/'
  | 'b' => some '\x08'
  | 'f' => some '\x0c'
  | 'n' => some '\n'
  | 'r' => some '\r'
  | 't' => some '\t'
  | _ => none

/-- the units up to the closing quote, and what follows it -/
def strUnits? : List Char → Option (List StrUnit × List Char)
  | [] => none
  | '\x22' :: r => some ([], r)
  | '\\' :: 'u' :: a :: b :: c :: d :: r => do
    let n ← hexCode? a b c d
    let (us, r) ← strUnits? r
    some (.code n :: us, r)
  | '\\' :: c :: r => do
    let e ← escaped? c
    let (us, r) ← strUnits? r
    some (.char e :: us, r)
  | c :: r =>
    if c.toNat < 0x20 then none
    else do
      let (us, r) ← strUnits? r
      some (.char c :: us, r)

/-- the code point of two halves of a surrogate pair -/
def pairCode (hi lo : Nat) : Nat := 0x10000 + (hi - 0xD800) * 0x400 + (lo - 0xDC00)

def joinUnits : List StrUnit → Option (List Char)
  | [] => some []
  | .char c :: us => (joinUnits us).map (c :: ·)
  | .code hi :: .code lo :: us =>
    if 0xD800 ≤ hi ∧ hi < 0xDC00 then
      if 0xDC00 ≤ lo ∧ lo < 0xE000 then (joinUnits us).map (Char.ofNat (pairCode hi lo) :: ·)
      else none
    else if 0xDC00 ≤ hi ∧ hi < 0xE000 then none
    else (joinUnits (.code lo :: us)).map (Char.ofNat hi :: ·)
  | .code n :: us =>
    if 0xD800 ≤ n ∧ n < 0xE000 then none else (joinUnits us).map (Char.ofNat n :: ·)

/-! ## numbers -/

/-- one digit or more, and what follows -/
def someDigits? (cs : List Char) : Option (List Char) :=
  if (cs.takeWhile Char.isDigit).isEmpty then none else some (cs.dropWhile Char.isDigit)

/-- what follows a fraction, and whether there was one -/
def fractionEnd? : List Char → Option (Bool × List Char)
  | '.' :: r => (someDigits? r).map (true, ·)
  | r => some (false, r)

/-- what follows an exponent, and whether there was one -/
def exponentEnd? : List Char → Option (Bool × List Char)
  | 'e' :: '+' :: r | 'e' :: '-' :: r | 'E' :: '+' :: r | 'E' :: '-' :: r
  | 'e' :: r | 'E' :: r => (someDigits? r).map (true, ·)
  | r => some (false, r)

/-- the digits of a whole part, in which a zero stands alone, and what follows -/
def wholePart? : List Char → Option (List Char × List Char)
  | '0' :: r => some (['0'], r)
  | cs =>
    if (cs.takeWhile Char.isDigit).isEmpty then none
    else some (cs.takeWhile Char.isDigit, cs.dropWhile Char.isDigit)

def number? (negative : Bool) (cs : List Char) : Option (Json × List Char) := do
  let (ds, r) ← wholePart? cs
  let (frac, r) ← fractionEnd? r
  let (exp, r) ← exponentEnd? r
  let n := digitsValue ds
  if frac || exp || (negative && n == 0) then some (.real, r)
  else some (.int (if negative then -(n : Int) else n), r)

/-! ## tokens -/

def isGap (c : Char) : Bool := c == ' ' || c == '\n' || c == '\t' || c == '\r'

/-- the token at the head of a text that starts with no blank, and what follows -/
def token? : List Char → Option (Token × List Char)
  | '[' :: r => some (.openList, r)
  | ']' :: r => some (.closeList, r)
  | '\x7b' :: r => some (.openRec, r)
  | '\x7d' :: r => some (.closeRec, r)
  | ',' :: r => some (.comma, r)
  | ':' :: r => some (.colon, r)
  | 'n' :: 'u' :: 'l' :: 'l' :: r => some (.leaf .null, r)
  | 't' :: 'r' :: 'u' :: 'e' :: r => some (.leaf (.bool true), r)
  | 'f' :: 'a' :: 'l' :: 's' :: 'e' :: r => some (.leaf (.bool false), r)
  | '\x22' :: r => (strUnits? r).map fun (us, r) => (.leaf (.str ((joinUnits us).map .ofList)), r)
  | '-' :: r => (number? true r).map fun (v, r) => (.leaf v, r)
  | cs => (number? false cs).map fun (v, r) => (.leaf v, r)

/-- The fuel bounds the number of tokens; each takes a character at least. -/
def tokensWithin : Nat → List Char → Option (List Token)
  | fuel, cs =>
    match cs.dropWhile isGap with
    | [] => some []
    | c :: r =>
      match fuel with
      | 0 => none
      | fuel + 1 => do
        let (t, r) ← token? (c :: r)
        let ts ← tokensWithin fuel r
        some (t :: ts)

def tokens? (s : String) : Option (List Token) := tokensWithin s.length s.toList

end Json
end MailBrowser
