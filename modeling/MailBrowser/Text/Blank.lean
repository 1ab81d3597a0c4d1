/-!
# White space, words and lines

The characters that separate words are the 25 of the property `White_Space`; `Char.isWhitespace`
knows four of them.

* `isBlank`     a character of white space;
* `strip`       a text without its outer characters of a class, `trim` without its outer blanks;
* `pieces`      a text cut at every character of a class;
* `words`       the non-empty pieces between blanks;
* `lines`       the lines of a text, each without its end mark.
-/

namespace MailBrowser.Text

/-- a character of one of the runs -/
def inRuns (runs : List (Nat × Nat)) (c : Char) : Bool :=
  runs.any fun r => decide (r.1 ≤ c.toNat) && decide (c.toNat ≤ r.2)

def blankRuns : List (Nat × Nat) := [
  (0x9, 0xD), (0x20, 0x20), (0x85, 0x85), (0xA0, 0xA0), (0x1680, 0x1680), (0x2000, 0x200A),
  (0x2028, 0x2029), (0x202F, 0x202F), (0x205F, 0x205F), (0x3000, 0x3000)]

def isBlank (c : Char) : Bool := inRuns blankRuns c

theorem isBlank_of_isWhitespace (c : Char) (h : c.isWhitespace = true) : isBlank c = true := by
  simp only [Char.isWhitespace, Bool.or_eq_true, decide_eq_true_eq] at h
  rcases h with ((rfl | rfl) | rfl) | rfl <;> rfl

/-! ## stripping -/

/-- a list without the members of a class at its end -/
def dropEndWhile {α : Type} (p : α → Bool) (l : List α) : List α :=
  (l.reverse.dropWhile p).reverse

def strip (p : Char → Bool) (cs : List Char) : List Char := dropEndWhile p (cs.dropWhile p)

def trim (s : String) : String := .ofList (strip isBlank s.toList)

/-- nothing but white space, or nothing at all -/
def isBlankText (s : String) : Bool := s.toList.all isBlank

/-! ## cutting -/

/-- the parts between the characters of a class, empty ones too -/
def pieces (p : Char → Bool) : List Char → List (List Char)
  | [] => [[]]
  | c :: cs =>
    if p c then [] :: pieces p cs
    else match pieces p cs with
      | [] => [[c]]
      | w :: ws => (c :: w) :: ws

theorem pieces_ne_nil (p : Char → Bool) (cs : List Char) : pieces p cs ≠ [] := by
  cases cs with
  | nil => simp [pieces]
  | cons c cs =>
    rw [pieces]
    split
    · simp
    · split <;> simp

def words (cs : List Char) : List (List Char) :=
  (pieces isBlank cs).filter fun w => !w.isEmpty

/-- a line without the carriage return before its end mark -/
def dropReturn (cs : List Char) : List Char :=
  if cs.getLast? = some '\r' then cs.dropLast else cs

/-- A line ends with a newline, or with a carriage return and a newline; what follows the last
end mark is a line if there is anything. -/
def lines (s : String) : List String :=
  let ps := pieces (· == '\n') s.toList
  let ended := ps.dropLast.map fun l => String.ofList (dropReturn l)
  match ps.getLast? with
  | none | some [] => ended
  | some last => ended ++ [String.ofList last]

end MailBrowser.Text
