import MailBrowser.Browser.Session
import MailBrowser.Browser.Update

/-!
# Desks

A desk is a browser at work: the browser, its session, and the effects that wait to be performed.

* `Desk.send`      delivers an event, and queues the effects that come of it;
* `Desk.take`      performs one of the waiting effects and delivers its outcome;
* `Desk.takeAll`   performs waiting effects of a kind, first come first, until none is left.
-/

namespace MailBrowser

structure Desk where
  browser : Browser
  session : Session
  /-- first come first -/
  waiting : List Effect := []

/-- what has happened at a desk: the effects asked for, the events delivered, the end -/
structure Proceedings where
  asked : List Effect := []
  delivered : List Event := []
  ended : Bool := false

def Effect.isTimer : Effect → Bool
  | .searchTick _ _ _ | .expireFlash _ _ => true
  | _ => false

namespace Desk

/-- a step that the browser has taken, its effects at the end of the queue -/
def follow (d : Desk) (step : Step) : Desk :=
  { d with browser := step.1, waiting := d.waiting ++ step.2 }

def send (d : Desk) (p : Proceedings) (e : Event) : Desk × Proceedings :=
  let step := d.browser.update e
  (d.follow step, { p with asked := p.asked ++ step.2, delivered := p.delivered ++ [e] })

/-- Nothing happens if no effect has this place. -/
def take (d : Desk) (p : Proceedings) (now : Instant) (place : Nat) : Desk × Proceedings :=
  match d.waiting[place]? with
  | none => (d, p)
  | some effect =>
    let (session, event) := d.session.perform now effect
    let d := { d with session, waiting := d.waiting.eraseIdx place }
    match event with
    | none => (d, { p with ended := true })
    | some e => d.send p e

/-- Effects that come meanwhile are performed too; no more than `n` are, and none after the end. -/
def takeAll (now : Instant) (kind : Effect → Bool) : Nat → Desk → Proceedings → Desk × Proceedings
  | 0, d, p => (d, p)
  | n + 1, d, p =>
    match d.waiting.findIdx? kind with
    | none => (d, p)
    | some place =>
      let (d, p) := d.take p now place
      if p.ended then (d, p) else takeAll now kind n d p

end Desk
end MailBrowser
