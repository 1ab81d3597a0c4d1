import MailBrowser.Proofs.SearchBox.Lexing
import MailBrowser.SearchBox.SearchQuery

/-!
# Search lines put together

What a line asks for is what its parts ask for, one after the other.  Only a date takes the place of
an earlier one.

* `gives`                  a part is an operator of a name, with a value;
* `SearchQuery.followedBy`   a query and the one that more parts make;
* `foldl_add`              parts add what they would ask for by themselves;
* `parse_joined`           a line without quotes and another line, a blank between them.
-/

namespace MailBrowser
open Text

namespace SearchQuery
open SearchBox

/-- The part is an operator of this name, up to the case of its letters, and has a value. -/
def gives (op : String) : Lexeme → Bool
  | .operator name value _ => lowerChars name = op && !value.isEmpty
  | _ => false

/-- what is asked for by a query and after it by parts that by themselves make the query `q` -/
def followedBy (p q : SearchQuery) (ls : List Lexeme) : SearchQuery where
  terms := p.terms ++ q.terms
  sender := p.sender ++ q.sender
  recipient := p.recipient ++ q.recipient
  subject := p.subject ++ q.subject
  labels := p.labels ++ q.labels
  hasAttachment := p.hasAttachment || q.hasAttachment
  after := if ls.any (gives "after") then q.after else p.after
  before := if ls.any (gives "before") then q.before else p.before

theorem followedBy_nil (p : SearchQuery) : p.followedBy {} [] = p := by
  simp [followedBy]

theorem followedBy_assoc (p q r : SearchQuery) (l : Lexeme) (ls : List Lexeme) :
    (p.followedBy q [l]).followedBy r ls = p.followedBy (q.followedBy r ls) (l :: ls) := by
  simp only [followedBy, List.append_assoc, Bool.or_assoc, List.any_cons, List.any_nil,
    Bool.or_false, Bool.or_eq_true]
  congr 1
  · by_cases h : ls.any (gives "after") = true <;> simp [h]
  · by_cases h : ls.any (gives "before") = true <;> simp [h]

theorem addOperator_eq (p : SearchQuery) (op value whole : String) :
    p.addOperator op value whole = {
      terms := p.terms ++ (addOperator {} op value whole).terms
      sender := p.sender ++ (addOperator {} op value whole).sender
      recipient := p.recipient ++ (addOperator {} op value whole).recipient
      subject := p.subject ++ (addOperator {} op value whole).subject
      labels := p.labels ++ (addOperator {} op value whole).labels
      hasAttachment := p.hasAttachment || (addOperator {} op value whole).hasAttachment
      after := if op = "after" then (addOperator {} op value whole).after else p.after
      before := if op = "before" then (addOperator {} op value whole).before else p.before } := by
  unfold addOperator
  repeat' split
  all_goals simp_all

/-- **One part more adds what it asks for by itself.** -/
theorem add_eq (p : SearchQuery) (l : Lexeme) : p.add l = p.followedBy (add {} l) [l] := by
  cases l with
  | word text => simp [add, followedBy, gives]
  | phrase text =>
    by_cases h : (strip isBlank text).isEmpty = true
    · simp only [add, h, if_true]
      simp [followedBy, gives]
    · simp only [add, h]
      simp [followedBy, gives]
  | operator op value whole =>
    by_cases h : value.isEmpty = true
    · simp only [add, h, if_true]
      simp [followedBy, gives, h]
    · simp only [add, h]
      rw [if_neg (by decide), if_neg (by decide), addOperator_eq]
      simp [followedBy, gives, h]

theorem foldl_add (ls : List Lexeme) (p : SearchQuery) :
    ls.foldl add p = p.followedBy (ls.foldl add {}) ls := by
  induction ls generalizing p with
  | nil => exact p.followedBy_nil.symm
  | cons l ls ih =>
    rw [List.foldl_cons, List.foldl_cons, ih (p.add l), ih (add {} l), add_eq, followedBy_assoc]

/-- **A line without quotes, a blank and another line ask for what the two lines ask for.**  No part
reads otherwise for what stands beside it; a date of the second line takes the place of one of the
first. -/
theorem parse_joined {a : String} (h : '\x22' ∉ a.toList) (b : String) :
    lexemes (a ++ " " ++ b).toList = lexemes a.toList ++ lexemes b.toList ∧
    parse (a ++ " " ++ b) = {
      terms := (parse a).terms ++ (parse b).terms
      sender := (parse a).sender ++ (parse b).sender
      recipient := (parse a).recipient ++ (parse b).recipient
      subject := (parse a).subject ++ (parse b).subject
      labels := (parse a).labels ++ (parse b).labels
      hasAttachment := (parse a).hasAttachment || (parse b).hasAttachment
      after := if (lexemes b.toList).any (gives "after") then (parse b).after else (parse a).after
      before := if (lexemes b.toList).any (gives "before") then (parse b).before
        else (parse a).before } := by
  have hparts : lexemes (a ++ " " ++ b).toList = lexemes a.toList ++ lexemes b.toList := by
    rw [String.append_assoc, String.toList_append, String.toList_append]
    exact lexemes_append (by decide) h b.toList
  refine ⟨hparts, ?_⟩
  unfold parse
  rw [hparts, List.foldl_append]
  exact foldl_add _ _

/-- The second date takes the place of the first, and an operator that lacks its value stays a word
also if a part comes after it. -/
theorem parse_joined_of_two_dates :
    '\x22' ∉ "from:ann after:2024-01-01 to:".toList ∧
    parse ("from:ann after:2024-01-01 to:" ++ " " ++ "After:2024-02-01 \x22to go\x22") =
      { terms := ["to:", "to go"], sender := ["ann"], after := Date.make? 2024 2 1 } := by
  have h : '\x22' ∉ "from:ann after:2024-01-01 to:".toList := by decide
  refine ⟨h, (parse_joined h _).2.trans ?_⟩
  decide +kernel

end SearchQuery
end MailBrowser
