import MailBrowser.Text.Blank

/-!
# The parts of a search line

A search line is read from left to right, past white space, as

* an operator: letters, a colon, and a value in quotes or a run without white space;
* a phrase in quotes;
* a word: a run without white space.

The first of the three that fits is taken.  A quote that is never closed is an ordinary character.

* `Lexeme`      the parts, `lexemes` the parts of a line;
* `next`        the part at the head of a text that starts with no white space, and `next_suffix`
                what it leaves over.
-/

namespace MailBrowser.SearchBox
open Text

inductive Lexeme where
  /-- `whole` is the part as it stands in the line -/
  | operator (name value whole : List Char)
  | phrase (text : List Char)
  | word (text : List Char)
deriving DecidableEq

def isLetter (c : Char) : Bool := c.isAlpha

def isSolid (c : Char) : Bool := !isBlank c

/-- what stands before the closing quote, and what after it -/
def quoted? (cs : List Char) : Option (List Char × List Char) :=
  if '\x22' ∈ cs then some (cs.takeWhile (· != '\x22'), (cs.dropWhile (· != '\x22')).tail)
  else none

/-- the value that follows an operator and its colon: itself, as it stands, and what follows -/
def value? (cs : List Char) : Option (List Char × List Char × List Char) :=
  let plain :=
    match cs.takeWhile isSolid with
    | [] => none
    | v => some (v, v, cs.dropWhile isSolid)
  match cs with
  | '\x22' :: r =>
    match quoted? r with
    | some (v, rest) => some (v, '\x22' :: v ++ ['\x22'], rest)
    | none => plain
  | _ => plain

def operator? (cs : List Char) : Option (Lexeme × List Char) :=
  match cs.takeWhile isLetter, cs.dropWhile isLetter with
  | c :: op, ':' :: r =>
    (value? r).map fun (v, written, rest) =>
      (.operator (c :: op) v (c :: op ++ ':' :: written), rest)
  | _, _ => none

def phrase? : List Char → Option (Lexeme × List Char)
  | '\x22' :: r => (quoted? r).map fun (v, rest) => (.phrase v, rest)
  | _ => none

def next (cs : List Char) : Lexeme × List Char :=
  match operator? cs with
  | some r => r
  | none =>
    match phrase? cs with
    | some r => r
    | none => (.word (cs.takeWhile isSolid), cs.dropWhile isSolid)

/-! ## each part takes a character -/

theorem quoted?_suffix {cs : List Char} {q : List Char × List Char} (h : quoted? cs = some q) :
    q.2 <:+ cs := by
  unfold quoted? at h
  split at h
  · cases h
    exact (List.tail_suffix _).trans (List.dropWhile_suffix _)
  · cases h

/-- a value without quotes -/
def run? (cs : List Char) : Option (List Char × List Char × List Char) :=
  if cs.takeWhile isSolid = [] then none
  else some (cs.takeWhile isSolid, cs.takeWhile isSolid, cs.dropWhile isSolid)

/-- A value is a text in quotes or a run. -/
theorem value?_cases (cs : List Char) :
    (∃ r q, cs = '\x22' :: r ∧ quoted? r = some q ∧
      value? cs = some (q.1, '\x22' :: q.1 ++ ['\x22'], q.2)) ∨ value? cs = run? cs := by
  unfold value? run?
  dsimp only
  split
  · split
    · rename_i hq
      exact .inl ⟨_, _, rfl, hq, rfl⟩
    · right
      split <;> rename_i hw
      · rw [if_pos hw]
      · rw [if_neg hw]
  · right
    split <;> rename_i hw
    · rw [if_pos hw]
    · rw [if_neg hw]

theorem value?_suffix {cs : List Char} {v : List Char × List Char × List Char}
    (h : value? cs = some v) : v.2.2 <:+ cs := by
  obtain ⟨r, q, rfl, hq, hv⟩ | hrun := value?_cases cs
  · rw [hv] at h
    cases h
    exact (quoted?_suffix hq).trans (List.suffix_cons _ _)
  · rw [hrun, run?] at h
    split at h
    · cases h
    · cases h
      exact List.dropWhile_suffix _

theorem suffix_tail {c : Char} {r cs : List Char} (h : c :: r <:+ cs) : r <:+ cs.tail := by
  cases cs with
  | nil => cases List.suffix_nil.1 h
  | cons x cs =>
    rcases List.suffix_cons_iff.1 h with h | h
    · cases h
      exact List.suffix_refl _
    · exact (List.suffix_cons c r).trans h

theorem operator?_suffix {cs : List Char} {x : Lexeme × List Char} (h : operator? cs = some x) :
    x.2 <:+ cs.tail := by
  unfold operator? at h
  split at h
  · rename_i hd
    obtain ⟨v, hv, rfl⟩ := Option.map_eq_some_iff.1 h
    exact (value?_suffix hv).trans (suffix_tail (hd ▸ List.dropWhile_suffix isLetter))
  · cases h

theorem phrase?_suffix {cs : List Char} {x : Lexeme × List Char} (h : phrase? cs = some x) :
    x.2 <:+ cs.tail := by
  unfold phrase? at h
  split at h
  · obtain ⟨v, hv, rfl⟩ := Option.map_eq_some_iff.1 h
    exact quoted?_suffix hv
  · cases h

/-- What a part leaves over is the end of what comes after its first character. -/
theorem next_suffix {c : Char} {cs : List Char} (h : isSolid c = true) :
    (next (c :: cs)).2 <:+ cs := by
  unfold next
  split
  · rename_i hr
    exact operator?_suffix hr
  · split
    · rename_i hr
      exact phrase?_suffix hr
    · rw [List.dropWhile_cons_of_pos h]
      exact List.dropWhile_suffix _

theorem next_length {c : Char} {cs : List Char} (h : isSolid c = true) :
    (next (c :: cs)).2.length < (c :: cs).length :=
  Nat.lt_succ_of_le (next_suffix h).length_le

/-- all parts of a line, in order -/
def lexemes : List Char → List Lexeme
  | [] => []
  | c :: cs =>
    if _h : isSolid c = true then
      (next (c :: cs)).1 :: lexemes (next (c :: cs)).2
    else lexemes cs
termination_by cs => cs.length
decreasing_by
  · exact next_length _h
  · simp

end MailBrowser.SearchBox
