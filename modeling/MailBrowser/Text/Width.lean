import MailBrowser.Text.Cluster
import MailBrowser.Text.WidthTable

/-!
# Widths

How many columns a text takes on a terminal.  A text is measured from its end to its start, since
what a character adds can hang on what follows it: a picture on the selector after it, a lam on the
alef that it is joined with.

* `Sequel`         what follows a character, as far as it bears on that;
* `added`          the columns that a character adds before a sequel, and the sequel that it is
                   itself;
* `textWidth`      the columns of a text;
* `shownClusters`, `lineClusters`   the clusters of a text that are put on a screen.
-/

namespace MailBrowser.Text

/-- what two letters of a script can make one of, by the letter that comes last -/
inductive Ligature where
  | lamed | ya
  /-- a vowel sign with the joiner and ya after it -/
  | vowelYa
  | berber
  /-- the sign that joins two Berber consonants, with the second of them -/
  | berberJoined
  | tone | orkhonI
  /-- a letter that can stand below another -/
  | coeng
deriving DecidableEq, Repr

inductive Sequel where
  /-- nothing that matters -/
  | nothing
  | newline
  | skinTone
  /-- a letter of a flag, several of them -/
  | flag | flags
  | picture
  /-- a joiner and a picture, and the same with a keycap before them -/
  | tied | tiedKeycap
  /-- letters of flags before a joiner and a picture: one, an even number, an odd number -/
  | tiedFlag | tiedEvenFlags | tiedOddFlags
  /-- tag characters, letters and then digits, before the end of a tag, a joiner and a picture -/
  | tiedTag (letters digits : Nat)
  | alef
  /-- the end of a ligature, and whether a joiner stands before it -/
  | ligature (l : Ligature) (joined : Bool)
deriving DecidableEq, Repr

/-- a sequel with the selectors that come before it -/
structure Ahead where
  sequel : Sequel := .nothing
  asText : Bool := false
  asPicture : Bool := false
deriving DecidableEq, Repr

def Ahead.nothing : Ahead := {}

/-- A selector can stand inside of a joined letter. -/
def Sequel.bearsSelectors : Sequel → Bool
  | .alef | .ligature _ _ => true
  | _ => false

def Sequel.isTied : Sequel → Bool
  | .tied | .tiedKeycap => true
  | _ => false

/-- the selector of pictures before a sequel -/
def Ahead.askPicture (a : Ahead) : Ahead :=
  if a.sequel.bearsSelectors || a.sequel.isTied then { a with asPicture := true }
  else { asPicture := true }

/-- the selector of text before a sequel -/
def Ahead.askText (a : Ahead) : Ahead :=
  if a.sequel.bearsSelectors then { a with asText := true } else { asText := true }

/-- a sequel whose selector of pictures had no picture before it -/
def Ahead.dropPicture (a : Ahead) : Ahead :=
  if !a.asPicture then a
  else if a.sequel.bearsSelectors then { a with asPicture := false }
  else .nothing

/-! ## classes of characters -/

def isBetween (first last : Nat) (c : Char) : Bool :=
  decide (first ≤ c.toNat) && decide (c.toNat ≤ last)

def isFlagLetter : Char → Bool := isBetween 0x1F1E6 0x1F1FF

def isSkinTone : Char → Bool := isBetween 0x1F3FB 0x1F3FF

def isTagLetter : Char → Bool := isBetween 0xE0061 0xE007A

def isTagDigit : Char → Bool := isBetween 0xE0030 0xE0039

/-- what asks for a picture instead of the character before it -/
def pictureSelector : Char := Char.ofNat 0xFE0F

/-- what asks for text -/
def textSelector : Char := Char.ofNat 0xFE0E

def isBerber (c : Char) : Bool := isBetween 0x2D31 0x2D65 c || c.toNat == 0x2D6F

/-- the letters whose subscript form stays below another letter -/
def coengRuns : List (Nat × Nat) := [
  (0x1780, 0x1782), (0x1784, 0x1787), (0x1789, 0x178C), (0x178E, 0x1793), (0x1795, 0x1798),
  (0x179B, 0x179D), (0x17A0, 0x17A0), (0x17A2, 0x17A2), (0x17A7, 0x17A7), (0x17AB, 0x17AC),
  (0x17AF, 0x17AF)]

/-- marks without a shape, which do not part the letters of a ligature -/
def unseenRuns : List (Nat × Nat) := [
  (0x34F, 0x34F), (0x17B4, 0x17B5), (0x180B, 0x180D), (0x180F, 0x180F), (0x200D, 0x200D),
  (0xFE00, 0xFE0F), (0xE0100, 0xE01EF)]

/-- marks, which do not part a lam from its alef -/
def isJoinedThrough (c : Char) : Bool :=
  inRuns WidthTable.bareRuns c && !inRuns WidthTable.standingRuns c

/-! ## single characters -/

/-- the columns of a character by itself -/
def charWidth (c : Char) : Nat :=
  if c.toNat ≤ 0xA0 then 1
  else if c.toNat = 0x17D8 then 3
  else if inRuns WidthTable.wideRuns c then 2
  else if inRuns WidthTable.bareRuns c then 0
  else 1

/-- the ligatures that a character can end -/
def ligature? (c : Char) : Option Ligature :=
  if c.toNat = 0x5DC then some .lamed
  else if c.toNat = 0x1A10 then some .ya
  else if isBerber c then some .berber
  else if isBetween 0xA4FC 0xA4FD c then some .tone
  else if c.toNat = 0x10C03 then some .orkhonI
  else if inRuns coengRuns c then some .coeng
  else none

/-- what a character by itself is to the character before it -/
def aloneAhead (c : Char) : Ahead :=
  if c = pictureSelector then { asPicture := true }
  else if c = textSelector then { asText := true }
  else if isFlagLetter c then { sequel := .flag }
  else if isSkinTone c then { sequel := .skinTone }
  else if inRuns WidthTable.presentedRuns c then { sequel := .picture }
  else if inRuns WidthTable.alefRuns c then { sequel := .alef }
  else match ligature? c with
    | some l => { sequel := .ligature l false }
    | none => .nothing

/-! ## characters before a sequel -/

/-- a character before the letter that ends a ligature -/
def addedLigature? (c : Char) (l : Ligature) (joined : Bool) : Option (Int × Sequel) :=
  if c = zeroWidthJoiner then some (0, .ligature l true)
  else if inRuns unseenRuns c then some (0, .ligature l joined)
  else match l, joined with
    | .lamed, true => if c.toNat = 0x5D0 then some (0, .nothing) else none
    | .ya, true => if c.toNat = 0x1A17 then some (0, .ligature .vowelYa true) else none
    | .vowelYa, _ => if c.toNat = 0x1A15 then some (0, .nothing) else none
    | .berber, _ =>
      if c.toNat = 0x2D7F then some (1, .ligature .berberJoined true)
      else if joined && isBerber c then some (0, .nothing)
      else none
    | .berberJoined, _ => if isBerber c then some (-1, .nothing) else none
    | .tone, _ => if isBetween 0xA4F8 0xA4FB c then some (0, .nothing) else none
    | .orkhonI, true => if c.toNat = 0x10C32 then some (0, .nothing) else none
    | .coeng, _ => if c.toNat = 0x17D2 then some (-1, .nothing) else none
    | _, _ => none

/-- a character before a joiner and a picture -/
def addedTied? (c : Char) : Option (Int × Sequel) :=
  if c.toNat = 0x20E3 then some (0, .tiedKeycap)
  else if isFlagLetter c then some (1, .tiedFlag)
  else if isSkinTone c then some (0, .skinTone)
  else if c.toNat = 0xE007F then some (0, .tiedTag 0 0)
  else if inRuns WidthTable.presentedRuns c then some (0, .picture)
  else none

/-- a character before the tag of a flag: the flag is followed by three to six letters, or by three
digits and at most four letters -/
def addedTag? (c : Char) (letters digits : Nat) : Option (Int × Sequel) :=
  if isTagLetter c && digits == 0 && decide (letters < 6) then
    some (0, .tiedTag (letters + 1) 0)
  else if isTagDigit c && decide (digits < 3) && decide (digits ≠ 0 ∨ letters ≤ 4) then
    some (0, .tiedTag letters (digits + 1))
  else if c.toNat = 0x1F3F4 &&
      (if digits = 0 then decide (3 ≤ letters) else digits == 3) then some (0, .picture)
  else none

/-- `none` if the character is measured as if nothing followed -/
def addedBefore? (c : Char) : Sequel → Option (Int × Sequel)
  | .alef =>
    if inRuns WidthTable.lamRuns c then some (0, .nothing)
    else if isJoinedThrough c then some (0, .alef)
    else none
  | .ligature l joined => addedLigature? c l joined
  | .skinTone =>
    if inRuns WidthTable.tonableRuns c then some (0, .picture)
    else if c = zeroWidthJoiner then some (0, .tied)
    else none
  | .flag => if isFlagLetter c then some (1, .flags) else none
  | .flags =>
    if isFlagLetter c then some (1, .flags)
    else if c = zeroWidthJoiner then some (0, .tied)
    else none
  | .picture => if c = zeroWidthJoiner then some (0, .tied) else none
  | .tied => addedTied? c
  | .tiedFlag => if isFlagLetter c then some (-1, .tiedEvenFlags) else none
  | .tiedEvenFlags =>
    if isFlagLetter c then some (3, .tiedOddFlags)
    else if c = zeroWidthJoiner then some (0, .tied)
    else none
  | .tiedOddFlags =>
    if isFlagLetter c then some (-1, .tiedEvenFlags)
    else if c = zeroWidthJoiner then some (0, .tied)
    else none
  | .tiedTag letters digits => addedTag? c letters digits
  | .nothing | .newline | .tiedKeycap => none

/-- a character of ASCII, a control or a blank that does not break -/
def addedLow (c : Char) (ahead : Ahead) : Int × Ahead :=
  if c = '\n' then (1, { sequel := .newline })
  else if c = '\r' ∧ ahead.sequel = .newline then (0, .nothing)
  else (1, .nothing)

def added (c : Char) (ahead : Ahead) : Int × Ahead :=
  if ahead.asPicture && inRuns WidthTable.askableRuns c then
    (if ahead.sequel.isTied then 0 else 2, { sequel := .picture })
  else
    let ahead := ahead.dropPicture
    if c.toNat ≤ 0xA0 then addedLow c ahead
    else if c = pictureSelector then (0, ahead.askPicture)
    else if c = textSelector then (0, ahead.askText)
    else if ahead.asText && inRuns WidthTable.tameableRuns c then (1, .nothing)
    else match addedBefore? c ahead.sequel with
      | some (w, sequel) => (w, { sequel })
      | none => (charWidth c, aloneAhead c)

/-- the columns of a text -/
def textWidth (cs : List Char) : Nat :=
  (cs.foldr (fun c r => ((added c r.2).1 + r.1, (added c r.2).2)) ((0 : Int), Ahead.nothing)).1
    |>.toNat

/-! ## clusters on a screen -/

/-- the characters of the category `Cc` -/
def isControl (c : Char) : Bool :=
  decide (c.toNat < 0x20) || (decide (0x7F ≤ c.toNat) && decide (c.toNat < 0xA0))

/-- the clusters of a text without the ones that hold a control -/
def shownClusters (s : String) : List (List Char) :=
  (clusters s.toList).filter fun g => !g.any isControl

/-- the clusters of a line: a newline is no part of it, any other control is -/
def lineClusters (s : String) : List (List Char) :=
  (clusters s.toList).filter fun g => g ≠ ['\n']

end MailBrowser.Text
