import MailBrowser.Group.Dimension

/-!
# Drill filters

The constraints that successive drills put on the messages shown, with the account and the
attachment scope.

* `Filter.value`       the key that a dimension is held to, `Filter.wantsNone` whether it is
                       held to messages without a value;
* `Filter.apply`       one more constraint, in place of an earlier one on the same dimension;
* `Filter.forKey`      a scoped filter with one constraint;
* `Filter.describe`    the constraints in the order of the ring.
-/

namespace MailBrowser

/-- a time bucket: `2024`, `2024-01` or `2024-01-15`, and its size -/
structure Period where
  text : String
  granularity : Granularity := .month
deriving DecidableEq, Inhabited

structure Filter where
  sender : Option String := none
  senderName : Option String := none
  recipient : Option String := none
  recipientName : Option String := none
  domain : Option String := none
  label : Option String := none
  period : Option Period := none
  /-- the account, all of them if none is named -/
  account : Option Int := none
  attachmentsOnly : Bool := false
  /-- the dimensions that must have no value, in the order of the ring -/
  noneOf : List Dimension := []
deriving DecidableEq, Inhabited

namespace Filter

/-- a filter that only sets the scope -/
def inScope (account : Option Int) (attachmentsOnly : Bool) : Filter := { account, attachmentsOnly }

def value (f : Filter) : Dimension → Option String
  | .senders => f.sender
  | .senderNames => f.senderName
  | .recipients => f.recipient
  | .recipientNames => f.recipientName
  | .domains => f.domain
  | .labels => f.label
  | .time => f.period.map Period.text

/-- the filter with the value of a dimension set or taken away -/
def setValue (f : Filter) (d : Dimension) (key : Option String) (g : Granularity) : Filter :=
  match d with
  | .senders => { f with sender := key }
  | .senderNames => { f with senderName := key }
  | .recipients => { f with recipient := key }
  | .recipientNames => { f with recipientName := key }
  | .domains => { f with domain := key }
  | .labels => { f with label := key }
  | .time => { f with period := key.map fun k => ⟨k, g⟩ }

def wantsNone (f : Filter) (d : Dimension) : Bool := d ∈ f.noneOf

/-- the dimensions of a list and one more, in the order of the ring -/
def withDimension (d : Dimension) (ds : List Dimension) : List Dimension :=
  Dimension.ring.filter fun e => e = d ∨ e ∈ ds

/-- Holds a dimension to a key; the empty key stands for messages without a value. -/
def apply (f : Filter) (d : Dimension) (key : String) (g : Granularity) : Filter :=
  if key.isEmpty then
    { f.setValue d none g with noneOf := withDimension d f.noneOf }
  else
    { f.setValue d (some key) g with noneOf := f.noneOf.filter (· ≠ d) }

def forKey (d : Dimension) (key : String) (g : Granularity) (account : Option Int) : Filter :=
  (inScope account false).apply d key g

/-- some dimension is held to something; the scope does not count -/
def isConstrained (f : Filter) : Bool :=
  Dimension.ring.any (fun d => (f.value d).isSome) || !f.noneOf.isEmpty

/-- the granularity that keys are read at -/
def granularity (f : Filter) : Granularity := (f.period.map Period.granularity).getD .month

def describeOne (f : Filter) (d : Dimension) : Option String :=
  match f.value d with
  | some v => some (d.fieldName ++ ":" ++ v)
  | none => if f.wantsNone d then some (d.fieldName ++ ":(empty)") else none

def describe (f : Filter) : String := " ".intercalate (Dimension.ring.filterMap f.describeOne)

end Filter
end MailBrowser
