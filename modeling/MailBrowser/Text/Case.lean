import MailBrowser.Text.Blank
import MailBrowser.Text.CaseTable

/-!
# Lower case

* `lower`       the lower-case form of a text, for all letters and not only the ASCII ones;
* `sameAscii`   equality up to the case of the ASCII letters;
* `hasInfix`    one text occurs in another.

Two letters are not read off the table of runs: the dotted capital I becomes two characters, and
a capital sigma becomes the final form at the end of a word and the other form elsewhere.
-/

namespace MailBrowser.Text

/-- the shift of a code point to its lower-case form -/
def lowerShift (n : Nat) : Int :=
  match CaseTable.lowerRuns.find? fun r => decide (r.1 ≤ n) && decide (n ≤ r.2.1) &&
      (n - r.1) % r.2.2.1 == 0 with
  | some r => r.2.2.2
  | none => 0

/-- the lower-case form of a letter that stands by itself -/
def lowerLetter (c : Char) : List Char :=
  if c.toNat < 0x80 then [c.toLower]
  else if c.toNat = 0x130 then ['i', Char.ofNat 0x307]
  else [Char.ofNat (c.toNat + lowerShift c.toNat).toNat]

/-- the nearest character that case does not skip has a case -/
def seesCased (cs : List Char) : Bool :=
  match cs.dropWhile (inRuns CaseTable.ignoredRuns) with
  | [] => false
  | c :: _ => inRuns CaseTable.casedRuns c

/-- A sigma is final if a letter stands before it and none after it. -/
def lowerSigma (before after : List Char) : Char :=
  if seesCased before && !seesCased after then 'ς' else 'σ'

/-- `before` is what has been read, last character first. -/
def lowerFrom (before : List Char) : List Char → List Char
  | [] => []
  | c :: cs =>
    if c = 'Σ' then lowerSigma before cs :: lowerFrom (c :: before) cs
    else lowerLetter c ++ lowerFrom (c :: before) cs

def lower (s : String) : String := .ofList (lowerFrom [] s.toList)

/-- `Char.toLower` changes the ASCII letters and no others. -/
def sameAscii (a b : String) : Bool :=
  a.toList.map Char.toLower == b.toList.map Char.toLower

def hasInfix (needle : List Char) : List Char → Bool
  | [] => needle.isEmpty
  | c :: cs => needle.isPrefixOf (c :: cs) || hasInfix needle cs

/-- `needle`, which is in lower case, occurs in the lower-case form of `s`. -/
def mentions (s needle : String) : Bool := hasInfix needle.toList (lower s).toList

end MailBrowser.Text
