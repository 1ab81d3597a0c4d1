import MailBrowser.Forest
import MailBrowser.Mail.Message

/-!
# Conversations

A message names others in its headers.  It belongs together with the message that carries a name,
and with every message that names the same.  Messages that belong together are one conversation,
which has the smallest number of its messages.

* `replies`         the messages that mention a name, each with the carrier of the name;
* `mentioning`      the messages that mention a name, each as often as it does;
* `forest`          the trees of messages that belong together, by place in the list;
* `assign`          the messages with their conversations, those that have one left as they are.

The names may be taken in any order; `assign` takes them as they first come.
-/

namespace MailBrowser

/-- the names in the headers of a message that refer to others -/
def Message.mentioned (m : Message) : List String := m.inReplyTo.toList ++ m.references

/-- the message in a conversation, unless it is in one already -/
def Message.threaded (m : Message) (conversation : Int) : Message :=
  if m.conversation = 0 then { m with conversation } else m

namespace Conversation

variable (ms : List Message)

/-- the place of the last message that carries a name -/
def carrier? (name : String) : Option (Fin ms.length) :=
  ((List.finRange ms.length).filter fun i => (ms.get i).messageId == some name).getLast?

def replies : List (Fin ms.length × Fin ms.length) :=
  (List.finRange ms.length).flatMap fun i =>
    (ms.get i).mentioned.filterMap fun name => (carrier? ms name).map fun j => (i, j)

def mentioning (name : String) : List (Fin ms.length) :=
  (List.finRange ms.length).flatMap fun i =>
    ((ms.get i).mentioned.filter fun other => other == name).map fun _ => i

/-- the first of a list with each of the others -/
def withFirst {α : Type} : List α → List (α × α)
  | [] => []
  | first :: others => others.map fun other => (first, other)

/-- the names that are mentioned -/
def names : List String := (ms.flatMap Message.mentioned).eraseDups

/-- what is joined, in this order: first the replies, then those that mention the same name -/
def joined (order : List String) : List (Fin ms.length × Fin ms.length) :=
  replies ms ++ order.flatMap fun name => withFirst (mentioning ms name)

def forest (order : List String) : Forest ms.length :=
  (Forest.alone ms.length).joinAll (joined ms order)

/-! ## the numbers of the conversations -/

/-- the smallest number of the messages with a mark -/
def smallestId {α : Type} [BEq α] (marked : List (Message × α)) (mark : α) : Int :=
  (((marked.filter fun p => p.2 == mark).map fun p => p.1.id).min?).getD 0

/-- the messages with their conversations, the names taken in some order -/
def assignBy (order : List String) : List Message :=
  let f := forest ms order
  let rooted := (List.finRange ms.length).map fun i => (ms.get i, f.root i)
  rooted.map fun (m, root) => m.threaded (smallestId rooted root)

def assign : List Message := assignBy ms (names ms)

end Conversation
end MailBrowser
