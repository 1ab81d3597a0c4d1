import MailBrowser.Figure

/-!
# Rows and totals

* `Row`          one group of messages: its key, its sums, and how many groups there are;
* `Stats`        message, byte and attachment counts of a scope;
* `Stats.ofRow`, `Stats.sumRows`   the totals of one row, of a list of rows.
-/

namespace MailBrowser

/-- The key of a group is empty for the messages that have no value. -/
structure Row where
  key : String
  count : Int := 0
  size : Int := 0
  attachmentSize : Int := 0
  attachments : Int := 0
  /-- the number of different keys in the whole grouping -/
  unique : Int := 0
deriving DecidableEq, Repr, Inhabited

structure Stats where
  messages : Int := 0
  size : Int := 0
  attachments : Int := 0
  attachmentSize : Int := 0
  labels : Int := 0
  accounts : Int := 0
deriving DecidableEq, Repr, Inhabited

namespace Stats

def ofRow (r : Row) : Stats :=
  { messages := r.count, size := r.size, attachments := r.attachments
    attachmentSize := r.attachmentSize }

/-- the sums of two totals in the columns that a row has -/
def addRow (s : Stats) (r : Row) : Stats :=
  { s with
    messages := Figure.add s.messages r.count
    size := Figure.add s.size r.size
    attachments := Figure.add s.attachments r.attachments
    attachmentSize := Figure.add s.attachmentSize r.attachmentSize }

def sumRows (rows : List Row) : Stats := rows.foldl addRow {}

end Stats
end MailBrowser
