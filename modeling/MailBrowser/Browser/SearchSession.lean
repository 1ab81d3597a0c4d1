import MailBrowser.Drill.Filter
import MailBrowser.Group.Row
import MailBrowser.Mail.Message

/-!
# Search sessions

Keystrokes in the search line do not search by themselves: each gives out a new token and asks
for a tick that carries it, and a tick counts only while its token is the last.

* `SearchMode`      fast searches look at headers, deep ones at bodies too;
* `SearchRequest`   one page to be searched, `SearchPage` the answer;
* `ListSnapshot`    a message list as it was before its search;
* `SearchSession`   the search line and the state of the results.
-/

namespace MailBrowser

inductive SearchMode where
  /-- in subjects and senders, within the drill -/
  | fast
  /-- in bodies too, in the whole archive -/
  | deep
deriving DecidableEq, Repr, Inhabited

def SearchMode.other : SearchMode → SearchMode
  | fast => deep
  | deep => fast

def SearchMode.label : SearchMode → String
  | fast => "Fast"
  | deep => "Deep"

structure SearchRequest where
  query : String := ""
  mode : SearchMode := .fast
  filter : Filter := {}
  limit : Nat := 0
  offset : Nat := 0
  /-- the page goes after the messages that are there -/
  append : Bool := false
deriving DecidableEq

/-- The total is -1 while there may be more pages. -/
structure SearchPage where
  messages : List Summary := []
  total : Int := 0
deriving DecidableEq

structure ListSnapshot where
  messages : List Summary
  cursor : Nat
  scroll : Nat
  totals : Option Stats
deriving DecidableEq

structure SearchSession where
  /-- the line is open and takes keys -/
  active : Bool := false
  input : String := ""
  mode : SearchMode := .fast
  /-- the token of the last keystroke -/
  token : Nat := 0
  loading : Bool := false
  loadingMore : Bool := false
  /-- -1 if it is not known yet -/
  total : Int := 0
  /-- where the next page begins -/
  offset : Nat := 0
  snapshot : Option ListSnapshot := none
deriving DecidableEq

namespace SearchSession

def bumpToken (s : SearchSession) : SearchSession := { s with token := s.token + 1 }

def forgetResults (s : SearchSession) : SearchSession :=
  { s with loading := false, loadingMore := false, total := 0, offset := 0 }

/-- Ends the input and makes ticks void; the totals stay. -/
def close (s : SearchSession) : SearchSession :=
  { s with
    active := false, input := "", snapshot := none, loading := false, loadingMore := false
    token := s.token + 1 }

/-- Only the mode is kept, and the token goes on. -/
def restart (s : SearchSession) : SearchSession := s.close.forgetResults

end SearchSession
end MailBrowser
