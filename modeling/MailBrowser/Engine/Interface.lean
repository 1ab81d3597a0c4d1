import MailBrowser.Drill.Filter
import MailBrowser.Group.Order
import MailBrowser.Group.Row
import MailBrowser.Mail.Message

/-!
# Query engines

What the browser asks an archive.  Every question may fail.

* `QueryError`     the causes of a failure, `QueryError.message` their wording;
* `GroupOptions`, `ListOptions`, `StatsOptions`   the settings of the questions;
* `Engine`         the questions; `Engine.failing` answers none of them.
-/

namespace MailBrowser

inductive QueryError where
  | io (reason : String)
  | parse (reason : String)
  | invalid (reason : String)
deriving DecidableEq, Repr

def QueryError.message : QueryError → String
  | io reason => "archive I/O failed: " ++ reason
  | parse reason => "archive could not be parsed: " ++ reason
  | invalid reason => "invalid query: " ++ reason

abbrev Answer (α : Type) := Except QueryError α

structure GroupOptions where
  account : Option Int := none
  sortField : RowField := .count
  direction : Direction := .desc
  /-- 0 for all rows -/
  limit : Nat := 100
  granularity : Granularity := .month
  attachmentsOnly : Bool := false
  /-- only messages that a search finds are grouped -/
  search : Option String := none
deriving DecidableEq, Inhabited

structure ListOptions where
  sortField : MessageField := .date
  direction : Direction := .desc
  /-- 0 for all messages -/
  limit : Nat := 0
  offset : Nat := 0
  /-- only the messages of one conversation -/
  conversation : Option Int := none
deriving DecidableEq, Inhabited

structure StatsOptions where
  account : Option Int := none
  attachmentsOnly : Bool := false
  search : Option String := none
  /-- a search is then for the keys of this dimension -/
  groupBy : Option Dimension := none
deriving DecidableEq, Inhabited

structure Engine where
  /-- the groups of all messages in the scope of the options -/
  group : Dimension → GroupOptions → Answer (List Row)
  /-- the groups of the messages that pass a filter -/
  groupWithin : Filter → Dimension → GroupOptions → Answer (List Row)
  list : Filter → ListOptions → Answer (List Summary)
  detail : Int → Answer (Option Detail)
  /-- search in subjects, senders and bodies: query, limit, offset -/
  search : String → Nat → Nat → Answer (List Summary)
  /-- search in subjects and senders of the messages that pass a filter -/
  searchFast : String → Filter → Nat → Nat → Answer (List Summary)
  countFast : String → Filter → Answer Int
  /-- the provider's names of all messages that pass a filter -/
  providerIds : Filter → Answer (List String)
  accounts : Answer (List Account)
  stats : StatsOptions → Answer Stats

/-- the engine to which every question is an error -/
def Engine.failing (e : QueryError) : Engine where
  group _ _ := .error e
  groupWithin _ _ _ := .error e
  list _ _ := .error e
  detail _ := .error e
  search _ _ _ := .error e
  searchFast _ _ _ _ := .error e
  countFast _ _ := .error e
  providerIds _ := .error e
  accounts := .error e
  stats _ := .error e

end MailBrowser
