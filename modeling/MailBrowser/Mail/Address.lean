import MailBrowser.Text.Case

/-!
# Mail addresses

* `Address.shown`      `Alice <alice@example.com>`, or the bare address if there is no name;
* `Address.ofText`     the name and the address of such a text;
* `emailOf`, `domainOf`   the address alone; what stands after the at sign.
-/

namespace MailBrowser
open Text

structure Address where
  email : String
  name : String := ""
deriving DecidableEq, Repr, Inhabited

/-- what stands before the first `c`, if there is one -/
def beforeFirst? (c : Char) (cs : List Char) : Option (List Char) :=
  if c ∈ cs then some (cs.takeWhile (· != c)) else none

/-- what stands between the first `<` and the last `>`, if they come in this order -/
def bracketed? (cs : List Char) : Option (List Char) :=
  match cs.dropWhile (· != '<') with
  | _ :: r => if '>' ∈ r then some (r.reverse.dropWhile (· != '>')).tail.reverse else none
  | [] => none

/-- the address in the brackets of a text, or the whole text if it has none -/
def emailOf (s : String) : String := .ofList (strip isBlank ((bracketed? s.toList).getD s.toList))

/-- The part between the first at sign and the next; a text without one is its own domain, so
that malformed addresses are not put together. -/
def domainOf (s : String) : String :=
  match pieces (· == '@') s.toList with
  | _ :: d :: _ => .ofList d
  | _ => s

namespace Address

def shown (a : Address) : String :=
  if a.name.isEmpty then a.email else a.name ++ " <" ++ a.email ++ ">"

/-- the name that a text with a bracket gives, without blanks and then quotes around it -/
def nameOf (s : String) : String :=
  match beforeFirst? '<' s.toList with
  | some cs => .ofList (strip (· == '\x22') (strip isBlank cs))
  | none => ""

def ofText (s : String) : Address := ⟨emailOf s, nameOf s⟩

/-- the name, or the address if there is none -/
def nameOrEmail (a : Address) : String := if a.name.isEmpty then a.email else a.name

end Address
end MailBrowser
