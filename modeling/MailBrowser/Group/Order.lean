/-!
# Sort orders

* `RowField`       what the rows of a grouping are sorted by;
* `MessageField`   what a list of messages is sorted by;
* `Direction`      descending or ascending.
-/

namespace MailBrowser

inductive RowField where
  | count | size | attachmentSize | name
deriving DecidableEq, Repr, Inhabited

namespace RowField

def next : RowField → RowField
  | count => size
  | size => attachmentSize
  | attachmentSize => name
  | name => count

def label : RowField → String
  | count => "Count"
  | size => "Size"
  | attachmentSize => "Attachments"
  | name => "Name"

end RowField

inductive Direction where
  | desc | asc
deriving DecidableEq, Repr, Inhabited

namespace Direction

def flip : Direction → Direction
  | desc => asc
  | asc => desc

def arrow : Direction → String
  | desc => "↓"
  | asc => "↑"

/-- an outcome of a comparison, as this direction sees it -/
def orient : Direction → Ordering → Ordering
  | desc, o => o.swap
  | asc, o => o

end Direction

inductive MessageField where
  | date | size | subject
deriving DecidableEq, Repr, Inhabited

namespace MessageField

def next : MessageField → MessageField
  | date => size
  | size => subject
  | subject => date

def label : MessageField → String
  | date => "Date"
  | size => "Size"
  | subject => "Subject"

end MessageField
end MailBrowser
