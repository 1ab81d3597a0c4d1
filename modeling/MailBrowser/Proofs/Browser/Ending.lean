import MailBrowser.Proofs.Browser.KeyStep

/-!
# How a step ends

Whatever a step changes in the view, it ends in one of few ways: it asks for nothing, shows a
notice, asks for one effect without a number, or makes one request.  Only these write to the
ledger and to the notices.

* `Effect.stamp?`, `Event.stamp?`   the kind and the number of a request, of an answer;
* `SameBooks`       two browsers with the same ledger and the same notices;
* `Ending`          the ways to end;
* `Ends`            a step that ends in one of them after changes elsewhere.
-/

namespace MailBrowser

def Effect.stamp? : Effect → Option (LoadKind × Nat)
  | .loadRows id _ _ _ => some (.rows, id)
  | .loadMessages id _ _ | .loadThread id _ _ => some (.messages, id)
  | .loadDetail id _ => some (.detail, id)
  | .search id _ => some (.search, id)
  | _ => none

def Event.stamp? : Event → Option (LoadKind × Nat)
  | .rowsLoaded id _ => some (.rows, id)
  | .messagesLoaded id _ | .threadLoaded id _ => some (.messages, id)
  | .detailLoaded id _ => some (.detail, id)
  | .searchLoaded id _ _ => some (.search, id)
  | _ => none

/-- the timer of a notice -/
def Effect.isExpiry : Effect → Bool
  | .expireFlash _ _ => true
  | _ => false

namespace Browser

/-- The notice may have gone meanwhile. -/
structure SameBooks (b c : Browser) : Prop where
  ledger : c.ledger = b.ledger
  generation : c.flashGeneration = b.flashGeneration
  flash : c.flash = b.flash ∨ c.flash = none

theorem SameBooks.refl (b : Browser) : SameBooks b b := ⟨rfl, rfl, .inl rfl⟩

theorem SameBooks.trans {a b c : Browser} (h : SameBooks a b) (k : SameBooks b c) :
    SameBooks a c := by
  refine ⟨k.ledger.trans h.ledger, k.generation.trans h.generation, ?_⟩
  rcases k.flash with e | e
  · rw [e]; exact h.flash
  · exact .inr e

inductive Ending (b : Browser) : Step → Prop where
  | nothing : Ending b b.still
  | notice (text : String) : Ending b (b.notify text)
  | other (x : Effect) (hx : x.stamp? = none) (hn : x.isExpiry = false) : Ending b (b, [x])
  | rows : Ending b b.loadRows
  | rowsAndStats : Ending b (b.loadRows.1, b.loadRows.2 ++ [b.loadRows.1.statsEffect])
  | messages : Ending b b.loadMessages
  | thread : Ending b b.loadThread
  | detail (message : Int)
      (hm : b.view.readingList[b.view.readingIndex]?.map Summary.id = some message) :
      Ending b (b.loadDetail message)
  | search (offset : Nat) (append : Bool) : Ending b (b.searchFrom offset append)

def Ends (b : Browser) (s : Step) : Prop := ∃ c, Ending c s ∧ SameBooks b c

theorem Ends.after {b c : Browser} {s : Step} (hs : Ends c s) (h : SameBooks b c) : Ends b s := by
  obtain ⟨d, he, hd⟩ := hs
  exact ⟨d, he, h.trans hd⟩

theorem ends_still {b c : Browser} (h : SameBooks b c) : Ends b c.still := ⟨c, .nothing, h⟩

end Browser
end MailBrowser
