import MailBrowser.Text.Numeral

/-!
# Texts in a settings file

Texts stand between double quotes, with escapes, or between single quotes, as they are; three
quotes of a kind make a text of several lines.

* `Toml.string?`     the text at the head of a list that starts with a quote, and what follows;
* `Toml.eol?`        what follows the end of a line.
-/

namespace MailBrowser
open Text

namespace Toml

/-- what follows a newline, with a carriage return before it or not -/
def eol? : List Char → Option (List Char)
  | '\n' :: r => some r
  | '\r' :: '\n' :: r => some r
  | _ => none

/-- a character that may stand in a text or a comment -/
def isShown (c : Char) : Bool := c == '\t' || (0x20 ≤ c.toNat && c.toNat != 0x7F)

def isGap (c : Char) : Bool := c == ' ' || c == '\t'

/-- the character of so many hexadecimal digits, and what follows -/
def hexChar? (w : Nat) (cs : List Char) : Option (Char × List Char) := do
  let ds ← (cs.take w).mapM hexValue?
  if ds.length = w then
    let n := ds.foldl (fun n d => 16 * n + d) 0
    if h : n.isValidChar then some (Char.ofNatAux n h, cs.drop w) else none
  else none

/-- the character of an escape, after its backslash -/
def escape? : List Char → Option (Char × List Char)
  | 'b' :: r => some ('\x08', r)
  | 't' :: r => some ('\t', r)
  | 'n' :: r => some ('\n', r)
  | 'f' :: r => some ('\x0c', r)
  | 'r' :: r => some ('\r', r)
  | '\x22' :: r => some ('\x22', r)
  | '\\' :: r => some ('\\', r)
  | 'u' :: r => hexChar? 4 r
  | 'U' :: r => hexChar? 8 r
  | _ => none

/-- the gaps and line ends at the head of a list left out -/
def skipLines : List Char → List Char
  | [] => []
  | '\r' :: '\n' :: r => skipLines r
  | c :: r => if isGap c || c == '\n' then skipLines r else c :: r

/-- what follows a backslash at the end of a line: the line end and all blanks after it -/
def continued? (cs : List Char) : Option (List Char) :=
  (eol? (cs.dropWhile isGap)).map skipLines

abbrev ReadText := Option (List Char × List Char)

def cons (c : Char) (r : ReadText) : ReadText := r.map fun (cs, rest) => (c :: cs, rest)

/-- the text on one line up to the closing quote `q`; `escapes` tells whether a backslash is one -/
def lineText (q : Char) (escapes : Bool) : Nat → List Char → ReadText
  | 0, _ => none
  | _ + 1, [] => none
  | fuel + 1, c :: r =>
    if c = q then some ([], r)
    else if c = '\\' ∧ escapes then
      (escape? r).bind fun (e, r) => cons e (lineText q escapes fuel r)
    else if isShown c then cons c (lineText q escapes fuel r)
    else none

/-- The text of several lines up to three quotes; one or two quotes before those belong to it. -/
def blockText (q : Char) (escapes : Bool) : Nat → List Char → ReadText
  | 0, _ => none
  | _ + 1, [] => none
  | fuel + 1, c :: r =>
    if c = q then
      let run := (c :: r).takeWhile (· == q)
      if run.length < 3 then cons c (blockText q escapes fuel r)
      else if run.length < 6 then some (run.drop 3, (c :: r).drop run.length)
      else none
    else if c = '\\' ∧ escapes then
      match continued? r with
      | some r => blockText q escapes fuel r
      | none => (escape? r).bind fun (e, r) => cons e (blockText q escapes fuel r)
    else match eol? (c :: r) with
      | some r => cons '\n' (blockText q escapes fuel r)
      | none => if isShown c then cons c (blockText q escapes fuel r) else none

/-- a text after its first quote -/
def quoted? (q : Char) (escapes : Bool) (cs : List Char) : ReadText :=
  match cs with
  | a :: b :: r =>
    if a = q ∧ b = q then
      blockText q escapes (r.length + 1) ((eol? r).getD r)
    else lineText q escapes (cs.length + 1) cs
  | _ => lineText q escapes (cs.length + 1) cs

def string? : List Char → ReadText
  | '\x22' :: r => quoted? '\x22' true r
  | '\x27' :: r => quoted? '\x27' false r
  | _ => none

end Toml
end MailBrowser
