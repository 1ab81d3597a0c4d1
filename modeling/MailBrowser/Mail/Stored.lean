import MailBrowser.Calendar.Reading
import MailBrowser.Json.Decode
import MailBrowser.Json.Encode
import MailBrowser.Mail.Message

/-!
# Messages in an archive file

How the parts of an archive are read from JSON and written: `ofJson?` and `toJson` of `Address`,
`Attachment`, `Account` and `Message`, each as a record of fixed fields.
-/

namespace MailBrowser
open Json (put)

def Instant.ofJson? (v : Json) : Option Instant := v.toText?.bind Instant.read?

instance : Encode Instant := ⟨fun t => .text t.written⟩

def Address.ofJson? (v : Json) : Option Address :=
  match v.slots? ["email", "name"] with
  | some [email, name] => do
    let email ← Json.need Json.toText? email
    let name ← Json.orElse "" Json.toText? name
    some { email, name }
  | _ => none

def Address.toJson (a : Address) : Json := .obj [put "email" a.email, put "name" a.name]

instance : Encode Address := ⟨Address.toJson⟩

def Attachment.ofJson? (v : Json) : Option Attachment :=
  match v.slots? ["id", "filename", "mime_type", "size", "content_hash"] with
  | some [id, filename, mimeType, size, contentHash] => do
    let id ← Json.need Json.toInt? id
    let filename ← Json.need Json.toText? filename
    let mimeType ← Json.need Json.toText? mimeType
    let size ← Json.need Json.toInt? size
    let contentHash ← Json.need Json.toText? contentHash
    some { id, filename, mimeType, size, contentHash }
  | _ => none

def Attachment.toJson (a : Attachment) : Json :=
  .obj [put "id" a.id, put "filename" a.filename, put "mime_type" a.mimeType, put "size" a.size,
    put "content_hash" a.contentHash]

instance : Encode Attachment := ⟨Attachment.toJson⟩

def Account.ofJson? (v : Json) : Option Account :=
  match v.slots? ["id", "source_type", "identifier", "display_name"] with
  | some [id, kind, identifier, displayName] => do
    let id ← Json.need Json.toInt? id
    let kind ← Json.need Json.toText? kind
    let identifier ← Json.need Json.toText? identifier
    let displayName ← Json.orElse "" Json.toText? displayName
    some { id, kind, identifier, displayName }
  | _ => none

def Account.toJson (a : Account) : Json :=
  .obj [put "id" a.id, put "source_type" a.kind, put "identifier" a.identifier,
    put "display_name" a.displayName]

instance : Encode Account := ⟨Account.toJson⟩

def Message.ofJson? (v : Json) : Option Message :=
  match v.slots? ["id", "source_id", "source_message_id", "conversation_id", "subject", "from",
      "to", "cc", "bcc", "sent_at", "size_estimate", "labels", "body_text", "attachments",
      "message_id", "in_reply_to", "references"] with
  | some [id, account, providerId, conversation, subject, sender, addressees, cc, bcc, sentAt, size,
      labels, body, attachments, messageId, inReplyTo, references] => do
    let id ← Json.need Json.toInt? id
    let account ← Json.need Json.toInt? account
    let providerId ← Json.need Json.toText? providerId
    let conversation ← Json.orElse 0 Json.toInt? conversation
    let subject ← Json.need Json.toText? subject
    let sender ← Json.need Address.ofJson? sender
    let addressees ← Json.orElse [] (Json.toList? Address.ofJson?) addressees
    let cc ← Json.orElse [] (Json.toList? Address.ofJson?) cc
    let bcc ← Json.orElse [] (Json.toList? Address.ofJson?) bcc
    let sentAt ← Json.need Instant.ofJson? sentAt
    let size ← Json.orElse 0 Json.toInt? size
    let labels ← Json.orElse [] (Json.toList? Json.toText?) labels
    let body ← Json.orElse "" Json.toText? body
    let attachments ← Json.orElse [] (Json.toList? Attachment.ofJson?) attachments
    let messageId ← Json.orElse none (Json.toOption? Json.toText?) messageId
    let inReplyTo ← Json.orElse none (Json.toOption? Json.toText?) inReplyTo
    let references ← Json.orElse [] (Json.toList? Json.toText?) references
    some { id, account, providerId, conversation, subject, sender, addressees, cc, bcc, sentAt,
           size, labels, body, attachments, messageId, inReplyTo, references }
  | _ => none

def Message.toJson (m : Message) : Json :=
  .obj [put "id" m.id, put "source_id" m.account, put "source_message_id" m.providerId,
    put "conversation_id" m.conversation, put "subject" m.subject, put "from" m.sender,
    put "to" m.addressees, put "cc" m.cc, put "bcc" m.bcc, put "sent_at" m.sentAt,
    put "size_estimate" m.size, put "labels" m.labels, put "body_text" m.body,
    put "attachments" m.attachments, put "message_id" m.messageId,
    put "in_reply_to" m.inReplyTo, put "references" m.references]

instance : Encode Message := ⟨Message.toJson⟩

end MailBrowser
