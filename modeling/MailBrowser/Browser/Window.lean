/-!
# Windows

A window shows a page of a list, from the row `scroll` on, and has a cursor in the list.

* `windowStart`     the first row of the page that shows the cursor, moved no more than needed;
* `Window.reveal`   the window moved so that it shows its cursor;
* `stepIn`          a position moved within a list.
-/

namespace MailBrowser

/-- A page has one row at least. -/
def windowStart (cursor scroll page : Nat) : Nat :=
  if cursor < scroll then cursor
  else if scroll + max page 1 ≤ cursor then cursor + 1 - max page 1
  else scroll

theorem windowStart_le (cursor scroll page : Nat) : windowStart cursor scroll page ≤ cursor := by
  unfold windowStart; split
  · exact Nat.le_refl _
  · split <;> omega

theorem lt_windowStart_add (cursor scroll page : Nat) :
    cursor < windowStart cursor scroll page + max page 1 := by
  unfold windowStart; split
  · omega
  · split <;> omega

structure Window where
  cursor : Nat := 0
  scroll : Nat := 0
deriving DecidableEq, Repr

namespace Window

def reveal (w : Window) (page : Nat) : Window :=
  { w with scroll := windowStart w.cursor w.scroll page }

/-- the window with its cursor on a row, revealed -/
def moveTo (w : Window) (row page : Nat) : Window := { w with cursor := row }.reveal page

end Window

/-- `n` moved by `delta`, kept below `size`; 0 if nothing is below it -/
def stepIn (n : Nat) (delta : Int) (size : Nat) : Nat :=
  min ((n : Int) + delta).toNat (size - 1)

theorem stepIn_lt {n size : Nat} {delta : Int} (h : 0 < size) : stepIn n delta size < size := by
  unfold stepIn; omega

end MailBrowser
