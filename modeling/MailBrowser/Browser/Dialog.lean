import MailBrowser.Browser.Key
import MailBrowser.Deletion.Staging

/-!
# Dialogs

* `Dialog`            what stands over the screen and takes the keys;
* `Dialog.question`   the lines of a dialog that is answered by yes or no;
* `moveInChoices`     the cursor of a dialog after a key.
-/

namespace MailBrowser

inductive Dialog where
  | help
  | quit
  /-- 0 for all accounts, then the accounts -/
  | account (cursor : Nat)
  /-- 0 for all messages, 1 for those with attachments -/
  | attachmentScope (cursor : Nat)
  | deletion (staged : StagedBatch)
  | attachments (cursor : Nat) (chosen : OrdSet Nat)
deriving DecidableEq

def Dialog.question : Dialog → List String
  | quit => ["Quit vaultterm?", "(y/n)"]
  | deletion staged => staged.question
  | _ => []

def moveInChoices (cursor : Nat) (k : Key) (size : Nat) : Nat :=
  match k with
  | .char 'j' | .down => min (cursor + 1) (size - 1)
  | .char 'k' | .up => cursor - 1
  | _ => cursor

end MailBrowser
