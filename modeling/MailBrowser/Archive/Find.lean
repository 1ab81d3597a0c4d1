import MailBrowser.Mail.Message
import MailBrowser.SearchBox.SearchQuery

/-!
# Searching a message

* `Reach`          whether the words of a query are also looked for in bodies;
* `Message.fits`   a message is what a query asks for.
-/

namespace MailBrowser
open Text

inductive Reach where
  /-- subject and sender -/
  | headers
  /-- subject, sender and body -/
  | all
deriving DecidableEq

namespace Address

def mentions (a : Address) (needle : String) : Bool :=
  Text.mentions a.email needle || Text.mentions a.name needle

end Address

namespace Message

def mentions (m : Message) (reach : Reach) (term : String) : Bool :=
  Text.mentions m.subject term || m.sender.mentions term ||
    (reach == .all && Text.mentions m.body term)

/-- the date bounds: from `after` on, up to the day before `before` -/
def inDates (m : Message) (q : SearchQuery) : Bool :=
  (match q.after with
    | none => true
    | some d => decide (d.toDays ≤ m.sentAt.day)) &&
  (match q.before with
    | none => true
    | some d => decide (m.sentAt.day < d.toDays))

def fits (m : Message) (q : SearchQuery) (reach : Reach) : Bool :=
  q.terms.all (m.mentions reach) &&
  q.sender.all m.sender.mentions &&
  q.recipient.all (fun t => m.recipients.any fun a => a.mentions t) &&
  q.subject.all (Text.mentions m.subject) &&
  q.labels.all (fun l => m.labels.any fun ml => lower ml == l) &&
  (!q.hasAttachment || !m.attachments.isEmpty) &&
  m.inDates q

end Message
end MailBrowser
