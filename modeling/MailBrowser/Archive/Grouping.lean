import MailBrowser.Archive.Basic
import MailBrowser.Engine.Interface

/-!
# Grouping messages

* `tally`       the rows of a list of messages, one for each key, in no particular order;
* `grouped`     the rows of the messages that a search finds, sorted, numbered and cut.
-/

namespace MailBrowser

namespace Row

/-- a row with one message more -/
def count1 (r : Row) (m : Message) : Row :=
  { r with
    count := r.count + 1
    size := Figure.add r.size m.size
    attachments := r.attachments + m.attachments.length
    attachmentSize := Figure.add r.attachmentSize m.attachmentSize }

/-- the comparison of two rows by a field -/
def compareBy (field : RowField) (a b : Row) : Ordering :=
  match field with
  | .count => compare a.count b.count
  | .size => compare a.size b.size
  | .attachmentSize => compare a.attachmentSize b.attachmentSize
  | .name => compare a.key b.key

/-- the order of the rows of a grouping, equal ones by ascending key -/
def inOrder (field : RowField) (dir : Direction) (a b : Row) : Bool :=
  ((dir.orient (compareBy field a b)).then (compare a.key b.key)).isLE

end Row

/-- the rows with a message counted under a key -/
def countUnder (m : Message) (key : String) : List Row → List Row
  | [] => [({ key } : Row).count1 m]
  | r :: rs => if r.key = key then r.count1 m :: rs else r :: countUnder m key rs

def tally (d : Dimension) (g : Granularity) (ms : List Message) : List Row :=
  ms.foldl (fun rows m => (m.keysOf d g).foldl (fun rows key => countUnder m key rows) rows) []

/-- the query of a search line, unless it asks for nothing -/
def activeQuery (search : Option String) : Option SearchQuery :=
  (search.map SearchQuery.parse).filter fun q => !q.isEmpty

/-- the messages that a query finds by their headers, all of them without one -/
def found (q : Option SearchQuery) (ms : List Message) : List Message :=
  match q with
  | none => ms
  | some q => ms.filter fun m => m.fits q .headers

/-- Every row tells how many there are, also those that the limit cuts off. -/
def grouped (d : Dimension) (o : GroupOptions) (ms : List Message) : List Row :=
  let rows := tally d o.granularity (found (activeQuery o.search) ms)
  let rows := rows.mergeSort (Row.inOrder o.sortField o.direction)
  let rows := rows.map fun r => { r with unique := rows.length }
  page rows o.limit 0

end MailBrowser
