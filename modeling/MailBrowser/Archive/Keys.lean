import MailBrowser.Drill.Filter
import MailBrowser.Mail.Message
import MailBrowser.OrdSet

/-!
# Keys of a message

The keys under which a message is grouped.  Every message has one at least: the empty key stands
for having no value.

* `keysOf`        the keys of a message in a dimension, in ascending order;
* `hasKey`        a message has a key, up to the case of ASCII letters;
* `inScope`       a message is of an account, or has attachments;
* `passes`        a message passes a filter.
-/

namespace MailBrowser
namespace Message
open Text

/-- the members of a set, or the empty key if it has none -/
def orEmptyKey (s : OrdSet String) : List String := if s.isEmpty then [""] else s.items

/-- the different texts of a list that are not empty -/
def distinct (keys : List String) : List String :=
  orEmptyKey (.ofList (keys.filter fun k => !k.isEmpty))

def keysOf (m : Message) (d : Dimension) (g : Granularity) : List String :=
  match d with
  | .senders => [lower m.sender.email]
  | .senderNames => [m.sender.nameOrEmail]
  | .recipients => distinct (m.recipients.map fun a => lower a.email)
  | .recipientNames => distinct (m.recipients.map Address.nameOrEmail)
  | .domains => if m.sender.email.isEmpty then [""] else [m.domain]
  | .labels => orEmptyKey (.ofList m.labels)
  | .time => [g.period m.sentAt]

def hasKey (m : Message) (d : Dimension) (g : Granularity) (key : String) : Bool :=
  (m.keysOf d g).any fun k => sameAscii k key

def inScope (m : Message) (account : Option Int) (attachmentsOnly : Bool) : Bool :=
  (match account with
    | none => true
    | some a => m.account == a) &&
  (!attachmentsOnly || !m.attachments.isEmpty)

/-- what a filter asks of one dimension; having no value comes before having a key -/
def meets (m : Message) (f : Filter) (d : Dimension) : Bool :=
  if f.wantsNone d then m.hasKey d f.granularity ""
  else match f.value d with
    | some v => m.hasKey d f.granularity v
    | none => true

def passes (m : Message) (f : Filter) : Bool := Dimension.ring.all (m.meets f)

end Message
end MailBrowser
