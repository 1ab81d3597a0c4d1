import MailBrowser.Calendar.Written

/-!
# Dimensions

The ways to group messages, in a ring, and the sizes of a time bucket.

* `Dimension`          what a group has in common; `Dimension.ring` fixes the order;
* `Dimension.cycle`    one step around the ring, past a dimension to skip;
* `Dimension.refine`   the grouping that a drill into a row offers first;
* `Granularity`        years, months or days; `Granularity.period` the bucket of an instant.
-/

namespace MailBrowser

inductive Dimension where
  | senders | senderNames | recipients | recipientNames | domains | labels | time
deriving DecidableEq, Repr, Inhabited

namespace Dimension

def ring : List Dimension :=
  [senders, senderNames, recipients, recipientNames, domains, labels, time]

theorem mem_ring (d : Dimension) : d ∈ ring := by cases d <;> decide

/-- the neighbour on the ring -/
def step (forward : Bool) : Dimension → Dimension
  | senders => if forward then senderNames else time
  | senderNames => if forward then recipients else senders
  | recipients => if forward then recipientNames else senderNames
  | recipientNames => if forward then domains else recipients
  | domains => if forward then labels else recipientNames
  | labels => if forward then time else domains
  | time => if forward then senders else labels

/-- the next dimension of the ring, never `skip` -/
def cycle (forward : Bool) (skip : Option Dimension) (d : Dimension) : Dimension :=
  let next := d.step forward
  if skip = some next then next.step forward else next

/-- An address has one display name in practice, so a drill into an address passes over the
names of its kind; a name can stand for many addresses, and moves on to them. -/
def refine : Dimension → Dimension
  | senders | senderNames => recipients
  | recipients | recipientNames => domains
  | domains => labels
  | labels => time
  | time => senders

def label : Dimension → String
  | senders => "Senders"
  | senderNames => "Sender Names"
  | recipients => "Recipients"
  | recipientNames => "Recipient Names"
  | domains => "Domains"
  | labels => "Labels"
  | time => "Time"

/-- the singular, for the description of a filter -/
def fieldName : Dimension → String
  | senders => "sender"
  | senderNames => "sender name"
  | recipients => "recipient"
  | recipientNames => "recipient name"
  | domains => "domain"
  | labels => "label"
  | time => "period"

end Dimension

inductive Granularity where
  | year | month | day
deriving DecidableEq, Repr

namespace Granularity

instance : Inhabited Granularity := ⟨month⟩

def next : Granularity → Granularity
  | year => month
  | month => day
  | day => year

def label : Granularity → String
  | year => "Year"
  | month => "Month"
  | day => "Day"

def periodChars (g : Granularity) (d : Date) : List Char :=
  match g with
  | year => yearChars d.year
  | month => d.monthChars
  | day => d.chars

/-- the key of the bucket, as in `2024`, `2024-01`, `2024-01-15` -/
def period (g : Granularity) (t : Instant) : String := .ofList (g.periodChars t.date)

end Granularity
end MailBrowser
