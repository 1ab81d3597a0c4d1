/-!
# The ledger of requests

Answers come late and in any order.  Every request gets the next number of its kind, and an
answer counts only while its number is the last one given out.

* `Ledger.issue`       gives out a number;
* `Ledger.current`     the last number given out, 0 before the first;
* `Ledger.isCurrent`   an answer with this number still counts.
-/

namespace MailBrowser

/-- the kinds of requests; a list and a thread replace each other -/
inductive LoadKind where
  | rows | messages | detail | search
deriving DecidableEq, Repr, Inhabited

structure Ledger where
  rows : Nat := 0
  messages : Nat := 0
  detail : Nat := 0
  search : Nat := 0
deriving DecidableEq, Repr

namespace Ledger

def current (l : Ledger) : LoadKind → Nat
  | .rows => l.rows
  | .messages => l.messages
  | .detail => l.detail
  | .search => l.search

def issue (l : Ledger) : LoadKind → Ledger
  | .rows => { l with rows := l.rows + 1 }
  | .messages => { l with messages := l.messages + 1 }
  | .detail => { l with detail := l.detail + 1 }
  | .search => { l with search := l.search + 1 }

def isCurrent (l : Ledger) (k : LoadKind) (id : Nat) : Bool := l.current k == id

@[simp] theorem current_issue_self (l : Ledger) (k : LoadKind) :
    (l.issue k).current k = l.current k + 1 := by cases k <;> rfl

theorem current_issue_of_ne (l : Ledger) {j k : LoadKind} (h : j ≠ k) :
    (l.issue k).current j = l.current j := by
  cases j <;> cases k <;> first | exact absurd rfl h | rfl

end Ledger
end MailBrowser
