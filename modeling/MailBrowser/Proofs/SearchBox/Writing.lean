import MailBrowser.Proofs.Calendar.Reading
import MailBrowser.Proofs.SearchBox.Lexing
import MailBrowser.Proofs.Text.Trimming
import MailBrowser.SearchBox.SearchQuery

/-!
# Search lines written down

A query is written as a line: its terms and its values in quotes, a blank between any two parts.
The line is read as the query.

* `SearchPart`          a part as it is written, `SearchQuery.parts` the parts of a query;
* `Writable`            the queries that can be written: what they ask for is in lower case and has
                        no quotes, and their dates have years of four digits;
* `SearchPart.reads`    a part is read as itself, whatever comes after it;
* `parse_written`       the line of a query is read as the query.
-/

namespace MailBrowser
open Text

/-! ## dates -/

namespace Date

/-- the dates with years of four digits -/
def FourDigits (d : Date) : Prop := 0 ≤ d.year ∧ d.year ≤ 9999

instance (d : Date) : Decidable d.FourDigits := inferInstanceAs (Decidable (_ ∧ _))

variable {d : Date} {c : Char}

theorem mem_chars (h : d.FourDigits) (hc : c ∈ d.chars) : c = '-' ∨ c.isDigit = true := by
  have hyear : yearChars d.year = fixed 4 d.year.toNat := if_pos h
  simp only [chars, monthChars, hyear, List.mem_append, List.mem_cons] at hc
  rcases hc with (hc | rfl | hc) | rfl | hc
  · exact .inr (isDigit_of_mem_fixed hc)
  · exact .inl rfl
  · exact .inr (isDigit_of_mem_fixed hc)
  · exact .inl rfl
  · exact .inr (isDigit_of_mem_fixed hc)

theorem lower_written (h : d.FourDigits) : lower d.written = d.written := by
  have hplain : ∀ c ∈ d.chars, c.toNat < 0x80 ∧ c.isUpper = false := fun c hc => by
    rcases mem_chars h hc with rfl | hd
    · decide
    · have : c.toNat ≤ 57 := (Char.isDigit_iff_toNat.1 hd).2
      exact ⟨by omega, isUpper_of_isDigit hd⟩
  rw [lower, written, String.toList_ofList, lowerFrom_ascii hplain]

theorem readDate?_written (h : d.FourDigits) : readDate? d.written = some d := by
  have hspan : firstYear ≤ d.year ∧ d.year ≤ lastYear :=
    ⟨Int.le_trans (by decide) h.1, Int.le_trans h.2 (by decide)⟩
  have hread := Calendar.dateFields?_chars hspan false []
  rw [List.append_nil] at hread
  rw [readDate?, written, String.toList_ofList, hread]

theorem written_ne_empty (h : d.FourDigits) : d.written ≠ "" := fun e => by
  have hread := readDate?_written h
  rw [e] at hread
  cases hread

end Date

/-! ## parts as they are written -/

/-- `quoted` is an operator with its value in quotes, `plain` one with its value as it is. -/
inductive SearchPart where
  | term (text : String)
  | quoted (op value : String)
  | plain (op value : String)

namespace SearchPart
open SearchBox

def written : SearchPart → List Char
  | term t => '\x22' :: t.toList ++ ['\x22']
  | quoted op v => op.toList ++ ':' :: ('\x22' :: v.toList ++ ['\x22'])
  | plain op v => op.toList ++ ':' :: v.toList

def lexeme : SearchPart → Lexeme
  | term t => .phrase t.toList
  | quoted op v => .operator op.toList v.toList (quoted op v).written
  | plain op v => .operator op.toList v.toList (plain op v).written

/-- the parts that are read as themselves -/
def Readable : SearchPart → Prop
  | term t => '\x22' ∉ t.toList
  | quoted op v => IsName op.toList ∧ '\x22' ∉ v.toList
  | plain op v =>
    IsName op.toList ∧ v ≠ "" ∧ '\x22' ∉ v.toList ∧ ∀ c ∈ v.toList, isSolid c = true

theorem reads {p : SearchPart} (h : p.Readable) : Reads p.lexeme p.written := by
  cases p with
  | term t => exact reads_phrase h
  | quoted op v => exact reads_quoted h.1 h.2
  | plain op v =>
    obtain ⟨hop, hne, hq, hs⟩ := h
    exact reads_run hop (mt String.toList_eq_nil_iff.1 hne) hq hs

end SearchPart

namespace SearchQuery
open SearchBox

def parts (q : SearchQuery) : List SearchPart :=
  q.terms.map .term ++ q.sender.map (.quoted "from") ++ q.recipient.map (.quoted "to") ++
  q.subject.map (.quoted "subject") ++ q.labels.map (.quoted "label") ++
  (if q.hasAttachment then [.plain "has" "attachment"] else []) ++
  (q.after.toList.map fun d => .plain "after" d.written) ++
  (q.before.toList.map fun d => .plain "before" d.written)

def written (q : SearchQuery) : String := .ofList ([' '].intercalate (q.parts.map (·.written)))

/-- a text in lower case that can stand in quotes -/
structure Quotable (t : String) : Prop where
  ne_empty : t ≠ ""
  no_quote : '\x22' ∉ t.toList
  in_lower : lower t = t

instance (t : String) : Decidable (Quotable t) :=
  decidable_of_iff (t ≠ "" ∧ '\x22' ∉ t.toList ∧ lower t = t)
    ⟨fun h => ⟨h.1, h.2.1, h.2.2⟩, fun h => ⟨h.1, h.2, h.3⟩⟩

structure Writable (q : SearchQuery) : Prop where
  terms : ∀ t ∈ q.terms, Quotable t ∧ trim t = t
  sender : ∀ t ∈ q.sender, Quotable t
  recipient : ∀ t ∈ q.recipient, Quotable t
  subject : ∀ t ∈ q.subject, Quotable t
  labels : ∀ t ∈ q.labels, Quotable t
  after : ∀ d ∈ q.after, d.FourDigits
  before : ∀ d ∈ q.before, d.FourDigits

/-! ## what the parts ask for -/

theorem add_term {t : String} (h : Quotable t) (htrim : trim t = t) (p : SearchQuery) :
    p.add (SearchPart.term t).lexeme = { p with terms := p.terms ++ [t] } := by
  have hne : t.toList.isEmpty = false := by simpa using h.ne_empty
  simp only [SearchPart.lexeme, add, strip_of_trim htrim, hne, lowerChars, String.ofList_toList,
    h.in_lower]
  rfl

theorem add_operator {op v : String} (hop : lower op = op) (hne : v ≠ "") (hv : lower v = v)
    (whole : List Char) (p : SearchQuery) :
    p.add (.operator op.toList v.toList whole) = p.addOperator op v (lowerChars whole) := by
  have hne : v.toList.isEmpty = false := by simpa using hne
  simp only [add, hne, lowerChars, String.ofList_toList, hop, hv]
  rfl

/-- Steps that each put one more member behind what was made of a list make it of the whole. -/
theorem foldl_of_snoc {α β γ : Type} {step : β → γ → β} {part : α → γ} {l : List α}
    (f : List α → β) (h : ∀ us, ∀ t ∈ l, step (f us) (part t) = f (us ++ [t])) (us : List α) :
    (l.map part).foldl step (f us) = f (us ++ l) := by
  induction l generalizing us with
  | nil => rw [List.append_nil, List.map_nil, List.foldl_nil]
  | cons t l ih =>
    rw [List.map_cons, List.foldl_cons, h us t List.mem_cons_self,
      ih (fun us x hx => h us x (List.mem_cons_of_mem t hx)), List.append_assoc,
      List.singleton_append]

theorem foldl_terms {ts : List String} (h : ∀ t ∈ ts, Quotable t ∧ trim t = t) :
    (ts.map fun t => (SearchPart.term t).lexeme).foldl add {} = { terms := ts } :=
  foldl_of_snoc (fun us => ({ terms := us } : SearchQuery))
    (fun _ t ht => add_term (h t ht).1 (h t ht).2 _) []

theorem foldl_attachment {p : SearchQuery} (b : Bool) (hp : p.hasAttachment = false) :
    ((if b then [SearchPart.plain "has" "attachment"] else []).map (·.lexeme)).foldl add p =
      { p with hasAttachment := b } := by
  cases b with
  | false =>
    show p = { p with hasAttachment := false }
    rw [← hp]
  | true =>
    have hname : lower "has" = "has" := by decide
    have hvalue : lower "attachment" = "attachment" := by decide
    exact add_operator hname (by decide) hvalue (SearchPart.plain "has" "attachment").written p

/-- `f` is what the query is for a list of values of the operator. -/
theorem foldl_quoted {op : String} (hop : lower op = op) (f : List String → SearchQuery)
    (hf : ∀ us v whole, (f us).addOperator op v whole = f (us ++ [v])) {vs : List String}
    (h : ∀ v ∈ vs, Quotable v) :
    (vs.map fun v => (SearchPart.quoted op v).lexeme).foldl add (f []) = f vs :=
  foldl_of_snoc f (fun us v hv =>
    (add_operator hop (h v hv).ne_empty (h v hv).in_lower _ _).trans (hf us v _)) []

theorem foldl_date {op : String} (hop : lower op = op) (f : Option Date → SearchQuery)
    (hf : ∀ v whole, (f none).addOperator op v whole = f (readDate? v)) {o : Option Date}
    (h : ∀ d ∈ o, d.FourDigits) :
    (o.toList.map fun d => (SearchPart.plain op d.written).lexeme).foldl add (f none) = f o := by
  cases o with
  | none => rfl
  | some d =>
    have hd := h d rfl
    show add (f none) (SearchPart.plain op d.written).lexeme = _
    rw [SearchPart.lexeme, add_operator hop (Date.written_ne_empty hd) (Date.lower_written hd), hf,
      Date.readDate?_written hd]

/-! ## the whole -/

theorem readable_date {op : String} (hop : IsName op.toList) {d : Date} (h : d.FourDigits) :
    (SearchPart.plain op d.written).Readable := by
  refine ⟨hop, Date.written_ne_empty h, ?_, ?_⟩ <;> rw [Date.written, String.toList_ofList]
  · intro hq
    rcases Date.mem_chars h hq with e | hd
    · cases e
    · cases hd
  · intro c hc
    have hblank : isBlank c = false := by
      rcases Date.mem_chars h hc with rfl | hd
      · decide
      · exact Calendar.isBlank_of_isDigit hd
    rw [isSolid, hblank]
    rfl

theorem readable_of_mem {q : SearchQuery} (h : Writable q) {p : SearchPart} (hp : p ∈ q.parts) :
    p.Readable := by
  simp only [parts, List.mem_append, List.mem_map, Option.mem_toList] at hp
  rcases hp with
    ((((((⟨t, ht, rfl⟩ | ⟨v, hv, rfl⟩) | ⟨v, hv, rfl⟩) | ⟨v, hv, rfl⟩) | ⟨v, hv, rfl⟩) | hp) |
      ⟨d, hd, rfl⟩) | ⟨d, hd, rfl⟩
  · exact (h.terms t ht).1.no_quote
  · exact ⟨by decide, (h.sender v hv).no_quote⟩
  · exact ⟨by decide, (h.recipient v hv).no_quote⟩
  · exact ⟨by decide, (h.subject v hv).no_quote⟩
  · exact ⟨by decide, (h.labels v hv).no_quote⟩
  · split at hp
    · rw [List.mem_singleton.1 hp]
      exact ⟨by decide, by decide, by decide, List.all_eq_true.1 (by decide)⟩
    · cases hp
  · exact readable_date (by decide) (h.after d hd)
  · exact readable_date (by decide) (h.before d hd)

/-- **The line of a query is read as the query.** -/
theorem parse_written {q : SearchQuery} (h : Writable q) : parse q.written = q := by
  have hread : lexemes q.written.toList = q.parts.map (·.lexeme) := by
    rw [written, String.toList_ofList]
    exact lexemes_joined fun p hp => SearchPart.reads (readable_of_mem h hp)
  rw [parse, hread, parts]
  simp only [List.map_append, List.foldl_append, List.map_map, Function.comp_def]
  rw [foldl_terms h.terms,
    foldl_quoted (by decide) (fun vs => { terms := q.terms, sender := vs })
      (fun _ _ _ => rfl) h.sender,
    foldl_quoted (by decide) (fun vs => { terms := q.terms, sender := q.sender, recipient := vs })
      (fun _ _ _ => rfl) h.recipient,
    foldl_quoted (by decide) (fun vs =>
      { terms := q.terms, sender := q.sender, recipient := q.recipient, subject := vs })
      (fun _ _ _ => rfl) h.subject,
    foldl_quoted (by decide) (fun vs =>
      { terms := q.terms, sender := q.sender, recipient := q.recipient, subject := q.subject
        labels := vs }) (fun _ _ _ => rfl) h.labels,
    foldl_attachment _ rfl,
    foldl_date (by decide) (fun d =>
      { terms := q.terms, sender := q.sender, recipient := q.recipient, subject := q.subject
        labels := q.labels, hasAttachment := q.hasAttachment, after := d })
      (fun _ _ => rfl) h.after,
    foldl_date (by decide) (fun d => { q with before := d }) (fun _ _ => rfl) h.before]

/-- A term that looks like an operator, a value with blanks, and a date. -/
theorem parse_written_three :
    let q : SearchQuery := {
      terms := ["from:ann"], subject := ["café menu "], after := Date.make? 2024 2 29 }
    Writable q ∧ q.written = "\x22from:ann\x22 subject:\x22café menu \x22 after:2024-02-29" ∧
      parse q.written = q := by
  intro q
  have hq : Writable q := by constructor <;> decide +kernel
  exact ⟨hq, by decide +kernel, parse_written hq⟩

end SearchQuery
end MailBrowser
