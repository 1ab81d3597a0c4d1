import MailBrowser.Text.Blank
import MailBrowser.Text.Numeral
import MailBrowser.Text.ShapelessTable

/-!
# Quoted texts

* `quotedText`   a text between double quotes, in which quotes, backslashes and every character
                 that would not show are escaped.
-/

namespace MailBrowser.Text

/-- controls, shapeless characters, and marks that would join the character before them -/
def isHidden (c : Char) : Bool :=
  c.toNat < 0x20 || c.toNat == 0x7F || inRuns ShapelessTable.shapelessRuns c

/-- hexadecimal digits without leading zeros -/
def hexDigits (n : Nat) : List Char := Nat.toDigits 16 n

def quotedChar (c : Char) : List Char :=
  if c = '\x00' then ['\\', '0']
  else if c = '\t' then ['\\', 't']
  else if c = '\r' then ['\\', 'r']
  else if c = '\n' then ['\\', 'n']
  else if c = '\x22' ∨ c = '\\' then ['\\', c]
  else if isHidden c then '\\' :: 'u' :: '\x7b' :: hexDigits c.toNat ++ ['\x7d']
  else [c]

def quotedText (s : String) : String := .ofList ('\x22' :: s.toList.flatMap quotedChar ++ ['\x22'])

end MailBrowser.Text
