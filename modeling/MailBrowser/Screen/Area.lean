/-!
# Areas

* `Area`            a rectangle of cells;
* `Area.inside`     what borders leave of an area, `Area.after` what columns leave;
* `Area.centered`   the middle of an area, a share of it in percent.
-/

namespace MailBrowser

structure Area where
  x : Nat
  y : Nat
  width : Nat
  height : Nat
deriving DecidableEq, Repr

namespace Area

def right (a : Area) : Nat := a.x + a.width

def bottom (a : Area) : Nat := a.y + a.height

/-- the `n`th row of an area -/
def row (a : Area) (n : Nat) : Area := { a with y := a.y + n, height := 1 }

/-- what a border on all sides leaves -/
def inside (a : Area) : Area where
  x := min (a.x + 1) a.right
  y := min (a.y + 1) a.bottom
  width := a.width - 2
  height := a.height - 2

/-- what a border at the top leaves -/
def belowTop (a : Area) : Area :=
  { a with y := min (a.y + 1) a.bottom, height := a.height - 1 }

/-- what is left of an area after some columns -/
def after (a : Area) (n : Nat) : Area := { a with x := a.x + n, width := a.width - n }

/-- the nearest whole number to a share of `n` in percent -/
def share (n percent : Nat) : Nat := (n * percent + 50) / 100

/-- start and length of the middle of `n` cells -/
def middle (n percent : Nat) : Nat × Nat :=
  let margin := (100 - percent) / 2
  (share n margin, share n (margin + percent) - share n margin)

def centered (a : Area) (percentX percentY : Nat) : Area :=
  let (x, width) := middle a.width percentX
  let (y, height) := middle a.height percentY
  { x := a.x + x, y := a.y + y, width, height }

/-- an area of a size in the middle of another -/
def boxed (a : Area) (width height : Nat) : Area where
  x := a.x + (a.width - width) / 2
  y := a.y + (a.height - height) / 2
  width
  height

end Area
end MailBrowser
