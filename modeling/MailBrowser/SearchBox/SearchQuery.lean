import MailBrowser.Calendar.Reading
import MailBrowser.SearchBox.Lexeme

/-!
# Search queries

* `SearchQuery`         what a search line asks for, in lower case;
* `SearchQuery.add`     the effect of one part of the line;
* `SearchQuery.parse`   the query of a line.

The operators are `from`, `to`, `subject`, `label` or `l`, `has:attachment`, `after` and `before`.
A part with another operator is a term as it stands; an operator with an empty value in quotes
asks for nothing.  A later date takes the place of an earlier one, also if it is not a date.
-/

namespace MailBrowser
open Text

structure SearchQuery where
  terms : List String := []
  sender : List String := []
  recipient : List String := []
  subject : List String := []
  labels : List String := []
  hasAttachment : Bool := false
  after : Option Date := none
  before : Option Date := none
deriving DecidableEq

namespace SearchQuery
open SearchBox

def isEmpty (q : SearchQuery) : Bool := q = {}

def lowerChars (cs : List Char) : String := lower (.ofList cs)

/-- the effect of an operator with a value in lower case -/
def addOperator (q : SearchQuery) (op value whole : String) : SearchQuery :=
  if op = "from" then { q with sender := q.sender ++ [value] }
  else if op = "to" then { q with recipient := q.recipient ++ [value] }
  else if op = "subject" then { q with subject := q.subject ++ [value] }
  else if op = "label" ∨ op = "l" then { q with labels := q.labels ++ [value] }
  else if op = "has" ∧ value = "attachment" then { q with hasAttachment := true }
  else if op = "after" then { q with after := readDate? value }
  else if op = "before" then { q with before := readDate? value }
  else { q with terms := q.terms ++ [whole] }

def add (q : SearchQuery) : Lexeme → SearchQuery
  | .operator op value whole =>
    if value.isEmpty then q
    else q.addOperator (lowerChars op) (lowerChars value) (lowerChars whole)
  | .phrase text =>
    if (strip isBlank text).isEmpty then q
    else { q with terms := q.terms ++ [lowerChars (strip isBlank text)] }
  | .word text => { q with terms := q.terms ++ [lowerChars text] }

def parse (line : String) : SearchQuery := (lexemes line.toList).foldl add {}

end SearchQuery
end MailBrowser
