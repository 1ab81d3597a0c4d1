import MailBrowser.Json.Value
import MailBrowser.Text.Numeral

/-!
# Writing JSON

* `Json.quote`      a text between quotes, with the escapes that the grammar asks for;
* `Json.compact`    a value on one line, without blanks;
* `Json.pretty`     a value with one part a line, two blanks deeper for each level.

An empty list or record stays on its line.  A number that is not whole, which nothing here makes,
is written as null.
-/

namespace MailBrowser
open Text

namespace Json

def escape (c : Char) : List Char :=
  if c = '\x22' then ['\\', '\x22']
  else if c = '\\' then ['\\', '\\']
  else if c = '\x08' then ['\\', 'b']
  else if c = '\x0c' then ['\\', 'f']
  else if c = '\n' then ['\\', 'n']
  else if c = '\r' then ['\\', 'r']
  else if c = '\t' then ['\\', 't']
  else if c.toNat < 0x20 then '\\' :: 'u' :: hexFixed 4 c.toNat
  else [c]

def quoteChars (cs : List Char) : List Char := '\x22' :: cs.flatMap escape ++ ['\x22']

def quote (s : String) : String := .ofList (quoteChars s.toList)

def literalChars (s : Literal) : List Char := quoteChars (s.getD "").toList

mutual

def compactChars : Json → List Char
  | .null | .real => ['n', 'u', 'l', 'l']
  | .bool true => ['t', 'r', 'u', 'e']
  | .bool false => ['f', 'a', 'l', 's', 'e']
  | .int n => decimalChars n
  | .str s => literalChars s
  | .list vs => '[' :: compactItems vs ++ [']']
  | .record fs => '\x7b' :: compactFields fs ++ ['\x7d']

def compactItems : List Json → List Char
  | [] => []
  | [v] => compactChars v
  | v :: vs => compactChars v ++ ',' :: compactItems vs

def compactFields : List (Literal × Json) → List Char
  | [] => []
  | [(k, v)] => literalChars k ++ ':' :: compactChars v
  | (k, v) :: fs => literalChars k ++ ':' :: compactChars v ++ ',' :: compactFields fs

end

def compact (v : Json) : String := .ofList (compactChars v)

/-- a new line at a depth -/
def newline (depth : Nat) : List Char := '\n' :: List.replicate (2 * depth) ' '

mutual

/-- the text of a value that stands at a depth -/
def prettyChars (depth : Nat) : Json → List Char
  | .null | .real => ['n', 'u', 'l', 'l']
  | .bool true => ['t', 'r', 'u', 'e']
  | .bool false => ['f', 'a', 'l', 's', 'e']
  | .int n => decimalChars n
  | .str s => literalChars s
  | .list [] => ['[', ']']
  | .list vs => '[' :: newline (depth + 1) ++ prettyItems (depth + 1) vs ++ newline depth ++ [']']
  | .record [] => ['\x7b', '\x7d']
  | .record fs =>
    '\x7b' :: newline (depth + 1) ++ prettyFields (depth + 1) fs ++ newline depth ++ ['\x7d']

def prettyItems (depth : Nat) : List Json → List Char
  | [] => []
  | [v] => prettyChars depth v
  | v :: vs => prettyChars depth v ++ ',' :: newline depth ++ prettyItems depth vs

def prettyFields (depth : Nat) : List (Literal × Json) → List Char
  | [] => []
  | [(k, v)] => literalChars k ++ ':' :: ' ' :: prettyChars depth v
  | (k, v) :: fs =>
    literalChars k ++ ':' :: ' ' :: prettyChars depth v ++ ',' :: newline depth ++
      prettyFields depth fs

end

def pretty (v : Json) : String := .ofList (prettyChars 0 v)

end Json
end MailBrowser
