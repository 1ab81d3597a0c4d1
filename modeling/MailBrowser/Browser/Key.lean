/-!
# Keys

* `Key`          a key that the browser knows, with the control key or without;
* `Press`        what a terminal reports of a key;
* `Key.ofPress?` the key of a report, if the browser knows it.
-/

namespace MailBrowser

inductive Key where
  | char (c : Char)
  | ctrl (c : Char)
  | enter | escape | tab | backTab | backspace
  | up | down | left | right | pageUp | pageDown | homeKey | endKey
deriving DecidableEq, Repr

inductive KeyCode where
  | char (c : Char)
  | named (k : Key)
  /-- a function key or another one without a use here -/
  | unbound
deriving DecidableEq, Repr

inductive PressKind where
  | press | release | repeated
deriving DecidableEq, Repr

structure Press where
  code : KeyCode
  control : Bool := false
  kind : PressKind := .press
deriving DecidableEq, Repr

/-- Keys that are let go or held down do nothing, and shift is in the character already. -/
def Key.ofPress? (p : Press) : Option Key :=
  match p.kind, p.code with
  | .press, .char c => some (if p.control then .ctrl c else .char c)
  | .press, .named k => some k
  | _, _ => none

end MailBrowser
