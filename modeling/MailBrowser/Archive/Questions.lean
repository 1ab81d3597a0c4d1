import MailBrowser.Archive.Grouping

/-!
# The questions an archive answers

* `Archive.list`, `Archive.search`, `Archive.searchFast`   lists of messages and their pages;
* `Archive.providerIds`     the provider's names of what a filter selects, if it is constrained;
* `Archive.stats`           totals of a scope;
* `Archive.engine`          an archive as a query engine: `providerIds` alone can fail.
-/

namespace MailBrowser
open Text

namespace Summary

/-- the comparison of two messages by a field -/
def compareBy (field : MessageField) (a b : Summary) : Ordering :=
  match field with
  | .date => if a.sentAt.before b.sentAt then .lt else if b.sentAt.before a.sentAt then .gt else .eq
  | .size => compare a.size b.size
  | .subject => compare (lower a.subject) (lower b.subject)

/-- the order of a list of messages, equal ones by ascending number -/
def inOrder (field : MessageField) (dir : Direction) (a b : Summary) : Bool :=
  ((dir.orient (compareBy field a b)).then (compare a.id b.id)).isLE

end Summary

namespace Archive

def inConversation (conversation : Option Int) (m : Message) : Bool :=
  match conversation with
  | none => true
  | some c => m.conversation == c

def list (a : Archive) (f : Filter) (o : ListOptions) : List Summary :=
  let ms := (a.selected f).filter (inConversation o.conversation)
  page ((ms.map Message.summary).mergeSort (Summary.inOrder o.sortField o.direction))
    o.limit o.offset

def detail (a : Archive) (id : Int) : Option Detail :=
  (a.messages.find? fun m => m.id == id).map Message.detail

/-- the messages of a list that a search line asks for -/
def hits (ms : List Message) (line : String) (reach : Reach) : List Summary :=
  let q := SearchQuery.parse line
  (ms.filter fun m => m.fits q reach).map Message.summary

def search (a : Archive) (line : String) (limit offset : Nat) : List Summary :=
  page (hits a.messages line .all) limit offset

def searchFast (a : Archive) (line : String) (f : Filter) (limit offset : Nat) : List Summary :=
  page (hits (a.selected f) line .headers) limit offset

def countFast (a : Archive) (line : String) (f : Filter) : Int :=
  (hits (a.selected f) line .headers).length

/-- Without a constraint the answer would be the whole archive. -/
def providerIds (a : Archive) (f : Filter) : Answer (List String) :=
  if f.isConstrained then .ok ((a.selected f).map Message.providerId)
  else .error (.invalid "refusing to resolve an unconstrained filter")

/-! ## totals -/

/-- a key of the message holds all terms of a query -/
def keyFits (d : Dimension) (q : SearchQuery) (m : Message) : Bool :=
  (m.keysOf d .month).any fun k => q.terms.all (mentions k)

/-- the messages that totals are taken of -/
def counted (o : StatsOptions) (ms : List Message) : List Message :=
  match activeQuery o.search, o.groupBy with
  | none, _ => ms
  | some q, none => ms.filter fun m => m.fits q .headers
  | some q, some d => ms.filter (keyFits d q)

def addMessage (s : Stats) (m : Message) : Stats :=
  { s with
    messages := s.messages + 1
    size := Figure.add s.size m.size
    attachments := s.attachments + m.attachments.length
    attachmentSize := Figure.add s.attachmentSize m.attachmentSize }

def stats (a : Archive) (o : StatsOptions) : Stats :=
  let ms := counted o (a.inScope o.account o.attachmentsOnly)
  { ms.foldl addMessage {} with
    labels := (OrdSet.ofList (ms.flatMap Message.labels)).size
    accounts := if o.account.isSome then 1 else a.accounts.length }

/-! ## the engine -/

def engine (a : Archive) : Engine where
  group d o := .ok (grouped d o (a.inScope o.account o.attachmentsOnly))
  groupWithin f d o := .ok (grouped d o (a.selected f))
  list f o := .ok (a.list f o)
  detail id := .ok (a.detail id)
  search line limit offset := .ok (a.search line limit offset)
  searchFast line f limit offset := .ok (a.searchFast line f limit offset)
  countFast line f := .ok (a.countFast line f)
  providerIds f := a.providerIds f
  accounts := .ok a.accounts
  stats o := .ok (a.stats o)

end Archive
end MailBrowser
