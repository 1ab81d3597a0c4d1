import MailBrowser.Archive.Basic

/-!
# The demonstration archive

An archive of 240 made-up messages in two accounts, for a look at the browser without mail of
one's own.  Everything in it is a function of the number of the message.
-/

namespace MailBrowser
namespace Demo
open Text

/-- a kind of sender: address, label, subject -/
def senders : List (String × String × String) := [
  ("GitHub <notifications@github.com>", "Notifications",
    "[rust-lang/rust] Fix ICE in pattern matching (PR #12345)"),
  ("Linear <notify@linear.app>", "Updates", "ENG-1234: Implement user authentication"),
  ("Stripe <receipts@stripe.com>", "Receipts", "Your receipt from Acme Corp"),
  ("Alice Chen <alice@example.com>", "Personal", "Coffee tomorrow?"),
  ("Bob Martinez <bob@example.com>", "Personal", "Trip photos"),
  ("Figma <no-reply@figma.com>", "Updates", "Alice commented on Design System v2"),
  ("newsletter@rustweekly.dev", "Newsletters", "This Week in Rust 512"),
  ("AWS Billing <billing@aws.amazon.com>", "Receipts", "Your AWS invoice is available")]

def accounts : List Account := [
  { id := 1, kind := "gmail", identifier := "demo@example.com", displayName := "Demo User" },
  { id := 2, kind := "imap", identifier := "demo@work.example", displayName := "Demo Work" }]

/-- 3 January 2023, 9 o'clock -/
def startSecond : Int := 1672736400

def messageName (n : Nat) : String := "<demo-" ++ decimal n ++ "@example.com>"

def body (n : Nat) (subject sender : String) : String :=
  "Hello,\n\nThis is demo message " ++ decimal (n + 1) ++ " about \"" ++ subject ++
    "\".\n\nThanks,\n" ++ sender

def invoice (n : Nat) : Attachment where
  id := 1000 + n
  filename := "invoice-" ++ .ofList (padded 4 (n + 1)) ++ ".pdf"
  mimeType := "application/pdf"
  size := 20000 + n * 311
  contentHash := .ofList (hexFixed 64 (0xdeadbeef + n))

def draft (n : Nat) : Draft :=
  let kind := (n * 7 + n / 3) % senders.length
  let (sender, label, subject) := (senders[kind]?).getD default
  let account := if n % 5 = 0 then 2 else 1
  { id := n + 1
    account
    sender
    addressees :=
      [if account = 2 then "Demo Work <demo@work.example>" else "Demo User <demo@example.com>"]
    cc := if n % 9 = 0 then ["Bob Martinez <bob@example.com>"] else []
    subject := if n % 4 = 1 then "Re: " ++ subject else subject
    body := body n subject sender
    date := .atSecond (startSecond + n * 71 * 3600)
    labels := if kind = 6 then ["INBOX"] else ["INBOX", label]
    attachments := if kind = 2 ∨ kind = 7 ∨ n % 11 = 0 then [invoice n] else []
    messageId := some (messageName (n + 1))
    inReplyTo := if n % 4 = 1 then some (messageName n) else none }

def file : ArchiveFile where
  accounts
  messages := (List.range 240).map fun n => (draft n).message

end Demo
end MailBrowser
