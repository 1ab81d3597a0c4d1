import MailBrowser.Browser.Cursor
import MailBrowser.Browser.Marking
import MailBrowser.Browser.Navigation

/-!
# Lists are indexed within their bounds

The steps that index a list, cut a slice of it or subtract from a length, written once more with
operations that fail out of range.  They never fail, and give what the steps give.

* `sub?`, `mod?`, `clamp?`, `slice?`   the operations;
* `windowStart?`, `stepIn?`            the start of a window, a place moved within a list;
* `markVisible?`, `stepHit?`, `turnMessage?`   the rows on screen, the next hit, the next message.
-/

namespace MailBrowser

def sub? (m n : Nat) : Option Nat := if n ≤ m then some (m - n) else none

def mod? (m n : Nat) : Option Nat := if n = 0 then none else some (m % n)

/-- `x` brought between two bounds, which have to be in order -/
def clamp? (x low high : Int) : Option Int :=
  if low ≤ high then some (max low (min x high)) else none

/-- the members of a list from one place up to another -/
def slice? {α : Type} (xs : List α) (first last : Nat) : Option (List α) :=
  if first ≤ last ∧ last ≤ xs.length then some ((xs.take last).drop first) else none

theorem sub?_eq {m n : Nat} (h : n ≤ m) : sub? m n = some (m - n) := if_pos h

theorem mod?_eq {m n : Nat} (h : 0 < n) : mod? m n = some (m % n) := if_neg (Nat.ne_of_gt h)

/-! ## windows -/

def windowStart? (cursor scroll page : Nat) : Option Nat :=
  if cursor < scroll then some cursor
  else if scroll + max page 1 ≤ cursor then sub? (cursor + 1) (max page 1)
  else some scroll

theorem windowStart?_eq (cursor scroll page : Nat) :
    windowStart? cursor scroll page = some (windowStart cursor scroll page) := by
  unfold windowStart? windowStart
  split
  · rfl
  · split
    · rw [sub?_eq (by omega)]
    · rfl

def stepIn? (n : Nat) (delta : Int) (size : Nat) : Option Nat :=
  if size = 0 then some 0
  else (clamp? (n + delta) 0 (size - 1)).bind Int.toNat?

theorem stepIn?_eq (n : Nat) (delta : Int) (size : Nat) :
    stepIn? n delta size = some (stepIn n delta size) := by
  unfold stepIn? stepIn
  split
  · rename_i h
    rw [h, Nat.zero_sub, Nat.min_zero]
  · rename_i h
    have hc : clamp? (n + delta) 0 (size - 1) = some (max 0 (min (n + delta) (size - 1))) :=
      if_pos (by omega)
    have hn : max 0 (min ((n : Int) + delta) (size - 1)) =
        ((min ((n : Int) + delta).toNat (size - 1) : Nat) : Int) := by omega
    rw [hc, hn]
    rfl

namespace Browser

/-! ## the part of a list that is on screen -/

def visible? {α : Type} (b : Browser) (xs : List α) : Option (List α) :=
  let first := min b.view.window.scroll xs.length
  slice? xs first (min (first + b.pageSize) xs.length)

def markVisible? (b : Browser) : Option Browser :=
  match b.view.level with
  | .groups | .subgroups =>
    (b.visible? b.view.data.rows).map fun rows =>
      { b with selection := b.selection.addKeys b.view.dimension (rows.map Row.key) }
  | .list =>
    (b.visible? b.view.data.messages).map fun messages =>
      { b with selection := b.selection.addMessages (messages.map Summary.id) }
  | _ => some b

theorem visible?_eq {α : Type} (b : Browser) (xs : List α) :
    b.visible? xs = some (b.visible xs) := by
  unfold visible? slice? visible
  dsimp only
  rw [if_pos (by omega), Option.some.injEq, List.drop_take]
  by_cases h : b.view.window.scroll ≤ xs.length
  · rw [Nat.min_eq_left h]
    by_cases hp : b.view.window.scroll + b.pageSize ≤ xs.length
    · rw [Nat.min_eq_left hp, Nat.add_sub_cancel_left]
    · rw [Nat.min_eq_right (by omega), List.take_of_length_le (by simp),
        List.take_of_length_le (by rw [List.length_drop]; omega)]
  · have hm : min b.view.window.scroll xs.length = xs.length := Nat.min_eq_right (by omega)
    rw [hm, List.drop_length, List.drop_of_length_le (by omega), List.take_nil, List.take_nil]

theorem markVisible?_eq (b : Browser) : b.markVisible? = some b.markVisible := by
  unfold markVisible? markVisible
  rw [visible?_eq, visible?_eq]
  cases b.view.level <;> rfl

/-! ## a message -/

def stepHit? (b : Browser) (forward : Bool) : Option Browser :=
  let f := b.view.find
  let n := f.hits.length
  if f.text.isEmpty ∨ n = 0 then some b
  else
    (sub? n 1).bind fun last =>
      let here := min f.hit last
      let hit? := if forward then mod? (here + 1) n else (sub? (here + n) 1).bind (mod? · n)
      hit?.map fun hit => (b.withView { b.view with find := { f with hit } }).showHit

theorem stepHit?_eq (b : Browser) (forward : Bool) :
    b.stepHit? forward = some (b.stepHit forward) := by
  unfold stepHit? stepHit
  dsimp only
  split
  · rfl
  · rename_i h
    have hn : 0 < b.view.find.hits.length := Nat.pos_of_ne_zero (not_or.1 h).2
    rw [sub?_eq hn]
    cases forward with
    | true =>
      show Option.map _ (mod? _ _) = _
      rw [mod?_eq hn]
      rfl
    | false =>
      show Option.map _ ((sub? _ 1).bind _) = _
      rw [sub?_eq (by omega)]
      show Option.map _ (mod? _ _) = _
      rw [mod?_eq hn]
      rfl

def turnMessage? (b : Browser) (delta : Int) : Option Step :=
  let list := b.view.readingList
  if list.isEmpty then some (b.notify "No messages loaded")
  else
    (sub? list.length 1).bind fun last =>
      let here := min b.view.readingIndex last
      let b := { b with view := { b.view with readingIndex := here } }
      let target := (here : Int) + delta
      if target < 0 then some (b.notify "At first message")
      else if (list.length : Int) ≤ target then some (b.notify "At last message")
      else
        list[target.toNat]?.map fun m =>
          let v := { b.view with readingIndex := target.toNat }
          { b with view := followReading v target.toNat b.pageSize }.awaitMessage m.subject
            |>.loadDetail m.id

theorem turnMessage?_eq (b : Browser) (delta : Int) :
    b.turnMessage? delta = some (b.turnMessage delta) := by
  unfold turnMessage? turnMessage
  dsimp only
  split
  · rfl
  · rename_i hn
    have hn : 0 < b.view.readingList.length :=
      List.length_pos_iff.2 fun h => hn (List.isEmpty_iff.2 h)
    rw [sub?_eq hn]
    show (if _ then _ else _ : Option Step) = _
    split
    · rfl
    · split
      · rename_i hlast
        rw [List.getElem?_eq_none (by omega)]
      · rename_i hlast
        rw [List.getElem?_eq_getElem (by omega)]
        rfl

end Browser
end MailBrowser
