import MailBrowser.Browser.Key
import MailBrowser.Text.Numeral

/-!
# Keystrokes

What a terminal sends when keys are pressed.

* `Keystroke.next?`   the first keystroke of a text, and what follows it;
* `Keystroke.all`     the keystrokes of a text.

A key without a character is an escape and a sequence: `[`, parameters and a final character, or
`O` and a character.  An escape with nothing behind it is the key itself.
-/

namespace MailBrowser
open Text

namespace Keystroke

/-- a key with no character that ends a sequence of its own -/
def ofFinal (c : Char) : KeyCode :=
  match c with
  | 'A' => .named .up
  | 'B' => .named .down
  | 'C' => .named .right
  | 'D' => .named .left
  | 'F' => .named .endKey
  | 'H' => .named .homeKey
  | 'Z' => .named .backTab
  | _ => .unbound

/-- a key that is a number with a tilde behind it -/
def ofNumber (n : Nat) : KeyCode :=
  match n with
  | 1 | 7 => .named .homeKey
  | 4 | 8 => .named .endKey
  | 5 => .named .pageUp
  | 6 => .named .pageDown
  | _ => .unbound

def isParameter (c : Char) : Bool := decide (0x30 ≤ c.toNat) && decide (c.toNat ≤ 0x3F)

/-- what follows an escape and a bracket -/
def ofSequence (cs : List Char) : KeyCode × List Char :=
  match cs.dropWhile isParameter with
  | '~' :: rest => (ofNumber (digitsValue (cs.takeWhile Char.isDigit)), rest)
  | final :: rest => (ofFinal final, rest)
  | [] => (.unbound, [])

/-- a character alone; those below the blank are letters and digits with the control key -/
def ofChar (c : Char) : Press :=
  let n := c.toNat
  if c = '\r' ∨ c = '\n' then { code := .named .enter }
  else if c = '\t' then { code := .named .tab }
  else if n = 0x7F then { code := .named .backspace }
  else if n = 0 then { code := .char ' ', control := true }
  else if n < 0x1B then { code := .char (.ofNat (n + 0x60)), control := true }
  else if n < 0x20 then { code := .char (.ofNat (n + 0x18)), control := true }
  else { code := .char c }

/-- An escape before a character is the key `alt` with it, which makes no difference here. -/
def next? : List Char → Option (Press × List Char)
  | [] => none
  | '\x1b' :: '[' :: cs => let (code, rest) := ofSequence cs; some ({ code }, rest)
  | '\x1b' :: 'O' :: c :: cs => some ({ code := ofFinal c }, cs)
  | '\x1b' :: '\x1b' :: cs => some ({ code := .named .escape }, '\x1b' :: cs)
  | '\x1b' :: c :: cs => some (ofChar c, cs)
  | '\x1b' :: [] => some ({ code := .named .escape }, [])
  | c :: cs => some (ofChar c, cs)

/-! ## each keystroke takes a character -/

theorem ofSequence_length (cs : List Char) : (ofSequence cs).2.length ≤ cs.length := by
  have h := (List.dropWhile_sublist isParameter (l := cs)).length_le
  unfold ofSequence
  split
  · rename_i e; rw [e, List.length_cons] at h; exact Nat.le_of_succ_le h
  · rename_i e; rw [e, List.length_cons] at h; exact Nat.le_of_succ_le h
  · exact Nat.zero_le _

theorem next_shorter {cs r : List Char} {p : Press} (h : next? cs = some (p, r)) :
    r.length < cs.length := by
  unfold next? at h
  split at h
  · cases h
  · rename_i cs
    cases h
    exact Nat.lt_of_le_of_lt (ofSequence_length cs) (by simp only [List.length_cons]; omega)
  all_goals cases h; simp only [List.length_cons]; omega

def all (cs : List Char) : List Press :=
  match _h : next? cs with
  | none => []
  | some (p, rest) => p :: all rest
termination_by cs.length
decreasing_by exact next_shorter _h

end Keystroke
end MailBrowser
