/-!
# Styles

* `Colour`       the colours of text;
* `Style`        a colour, perhaps none, and whether text is bold or underlined;
* `Style.atop`   a style put on a cell that has one.
-/

namespace MailBrowser

inductive Colour where
  | yellow | cyan | red | white | darkGray | magenta
deriving DecidableEq, Repr

structure Style where
  colour : Option Colour := none
  bold : Bool := false
  underlined : Bool := false
deriving DecidableEq, Repr

namespace Style

def plain : Style := {}

def ofColour (c : Colour) : Style := { colour := some c }

/-- What the new style leaves open stays as it is. -/
def atop (new old : Style) : Style where
  colour := new.colour <|> old.colour
  bold := new.bold || old.bold
  underlined := new.underlined || old.underlined

theorem plain_atop (s : Style) : plain.atop s = s := by
  cases s; simp [plain, atop]

theorem atop_atop (a b c : Style) : a.atop (b.atop c) = (a.atop b).atop c := by
  cases a with | mk ca ba ua => cases ca <;> simp [atop, Bool.or_assoc]

/-- the row under the cursor -/
def highlight : Style := { colour := some .yellow, bold := true }

end Style
end MailBrowser
