import MailBrowser.Calendar.Written
import MailBrowser.Figure
import MailBrowser.Group.Row
import MailBrowser.Mail.Address
import MailBrowser.Text.ByteSize

/-!
# Messages

* `Message`      a message as the archive holds it;
* `Summary`      what a list shows of a message, `Detail` what the reading view shows;
* `Detail.lines` the lines of the reading view: headers, attachments, a gap, the body;
* `Draft`        the parts that a message is made from, `Draft.message` the message.
-/

namespace MailBrowser
open Text

structure Attachment where
  id : Int := 0
  filename : String := ""
  mimeType : String := ""
  size : Int := 0
  /-- names the stored content -/
  contentHash : String := ""
deriving DecidableEq, Repr, Inhabited

/-- an account that messages come from -/
structure Account where
  id : Int
  kind : String := ""
  identifier : String := ""
  displayName : String := ""
deriving DecidableEq, Repr, Inhabited

structure Message where
  id : Int
  account : Int
  /-- the name of the message at the provider -/
  providerId : String
  /-- the thread, 0 if unknown -/
  conversation : Int := 0
  subject : String
  sender : Address
  addressees : List Address := []
  cc : List Address := []
  bcc : List Address := []
  sentAt : Instant
  size : Int := 0
  labels : List String := []
  body : String := ""
  attachments : List Attachment := []
  messageId : Option String := none
  inReplyTo : Option String := none
  references : List String := []
deriving DecidableEq, Inhabited

structure Summary where
  id : Int
  providerId : String := ""
  conversation : Int := 0
  subject : String := ""
  snippet : String := ""
  senderEmail : String := ""
  senderName : String := ""
  sentAt : Instant := .epoch
  size : Int := 0
  hasAttachments : Bool := false
  attachments : Nat := 0
  labels : List String := []
deriving DecidableEq, Inhabited

structure Detail where
  id : Int
  providerId : String := ""
  conversation : Int := 0
  subject : String := ""
  sentAt : Instant := .epoch
  size : Int := 0
  sender : List Address := []
  addressees : List Address := []
  cc : List Address := []
  bcc : List Address := []
  body : String := ""
  labels : List String := []
  attachments : List Attachment := []
deriving DecidableEq, Inhabited

def attachedBytes (as : List Attachment) : Int := Figure.sum (as.map Attachment.size)

/-! ## a message in short and in full -/

namespace Message

def domain (m : Message) : String := lower (domainOf m.sender.email)

def recipients (m : Message) : List Address := m.addressees ++ m.cc ++ m.bcc

def attachmentSize (m : Message) : Int := attachedBytes m.attachments

def snippetLength : Nat := 120

/-- the words of the body with single blanks, cut -/
def snippet (m : Message) : String :=
  .ofList ((([' '] : List Char).intercalate (words m.body.toList)).take snippetLength)

def summary (m : Message) : Summary where
  id := m.id
  providerId := m.providerId
  conversation := m.conversation
  subject := m.subject
  snippet := m.snippet
  senderEmail := m.sender.email
  senderName := m.sender.name
  sentAt := m.sentAt
  size := m.size
  hasAttachments := !m.attachments.isEmpty
  attachments := m.attachments.length
  labels := m.labels

def detail (m : Message) : Detail where
  id := m.id
  providerId := m.providerId
  conversation := m.conversation
  subject := m.subject
  sentAt := m.sentAt
  size := m.size
  sender := [m.sender]
  addressees := m.addressees
  cc := m.cc
  bcc := m.bcc
  body := m.body
  labels := m.labels
  attachments := m.attachments

end Message

namespace Detail

def addressLine (as : List Address) : String := ", ".intercalate (as.map Address.shown)

/-- a header line that is left out when it has nothing to say -/
def optionalLine {α : Type} (xs : List α) (line : String) : List String :=
  if xs.isEmpty then [] else [line]

def attachmentLines (as : List Attachment) : List String :=
  optionalLine as ("Attachments (" ++ decimal as.length ++ "):") ++
    as.map fun a => "  " ++ a.filename ++ " (" ++ sizeText a.size ++ ")"

def lines (d : Detail) : List String :=
  ["From: " ++ addressLine d.sender, "To: " ++ addressLine d.addressees] ++
  optionalLine d.cc ("Cc: " ++ addressLine d.cc) ++
  optionalLine d.bcc ("Bcc: " ++ addressLine d.bcc) ++
  ["Date: " ++ d.sentAt.toMinute, "Subject: " ++ d.subject] ++
  optionalLine d.labels ("Labels: " ++ ", ".intercalate d.labels) ++
  attachmentLines d.attachments ++
  "" :: Text.lines d.body

end Detail

/-! ## making a message -/

/-- the parts of a message; addresses are texts such as `Alice <alice@example.com>` -/
structure Draft where
  id : Int := 0
  account : Int := 0
  sender : String := ""
  addressees : List String := []
  cc : List String := []
  subject : String := ""
  body : String := ""
  date : Instant := .epoch
  size : Int := 0
  labels : List String := []
  attachments : List Attachment := []
  messageId : Option String := none
  inReplyTo : Option String := none
  references : List String := []

namespace Draft

/-- 16 hexadecimal digits of the number modulo 2^64 -/
def providerIdOf (id : Int) : String := .ofList (hexFixed 16 (id % 18446744073709551616).toNat)

/-- The size is the one given, or that of the body and the attachments. -/
def message (d : Draft) : Message where
  id := d.id
  account := d.account
  providerId := providerIdOf d.id
  conversation := 0
  subject := d.subject
  sender := .ofText d.sender
  addressees := d.addressees.map .ofText
  cc := d.cc.map .ofText
  bcc := []
  sentAt := d.date
  size :=
    if 0 < d.size then d.size
    else Figure.add d.body.utf8ByteSize (attachedBytes d.attachments)
  labels := d.labels
  body := d.body
  attachments := d.attachments
  messageId := d.messageId
  inReplyTo := d.inReplyTo
  references := d.references

end Draft
end MailBrowser
