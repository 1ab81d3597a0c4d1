import MailBrowser.Json.Lexer
import MailBrowser.Json.Printer
import MailBrowser.Proofs.Text.Numerals

/-!
# The tokens of a printed value

* `Json.Plain`          a value that its text denotes;
* `Json.tokensOf`       the tokens of a value;
* `Json.Lexes`          the tokens that a text is cut into;
* `Json.lexes_value`    a printed value is cut into its tokens, whatever follows it.

A value is followed by a comma, by a new line or by nothing, so that a numeral ends where it is
meant to.
-/

namespace MailBrowser
namespace Json
open Text

/-- a value with whole numbers only, in which every string is a text -/
inductive Plain : Json → Prop where
  | null : Plain .null
  | bool (b : Bool) : Plain (.bool b)
  | int (n : Int) : Plain (.int n)
  | text (s : String) : Plain (.text s)
  | list {vs : List Json} (h : ∀ v ∈ vs, Plain v) : Plain (.list vs)
  | record {fs : List (Literal × Json)} (hk : ∀ f ∈ fs, f.1.isSome = true)
      (h : ∀ f ∈ fs, Plain f.2) : Plain (.record fs)

mutual

def tokensOf : Json → List Token
  | .list vs => .openList :: itemTokens vs ++ [.closeList]
  | .record fs => .openRec :: fieldTokens fs ++ [.closeRec]
  | v => [.leaf v]

def itemTokens : List Json → List Token
  | [] => []
  | [v] => tokensOf v
  | v :: vs => tokensOf v ++ .comma :: itemTokens vs

def fieldTokens : List (Literal × Json) → List Token
  | [] => []
  | [(k, v)] => .leaf (.str k) :: .colon :: tokensOf v
  | (k, v) :: fs => .leaf (.str k) :: .colon :: tokensOf v ++ .comma :: fieldTokens fs

end

/-! ## strings -/

/-- the characters with an escape of two characters -/
def shortEscaped : List Char := ['\x22', '\\', '\x08', '\x0c', '\n', '\r', '\t']

/-- what a printed character is read as -/
def unitOf (c : Char) : StrUnit :=
  if c.toNat < 0x20 ∧ c ∉ shortEscaped then .code c.toNat else .char c

theorem escape_of_mem {c : Char} (h : c ∈ shortEscaped) :
    ∃ e, escape c = ['\\', e] ∧ e ≠ 'u' ∧ escaped? e = some c ∧ unitOf c = .char c := by
  simp only [shortEscaped, List.mem_cons, List.not_mem_nil, or_false] at h
  rcases h with rfl | rfl | rfl | rfl | rfl | rfl | rfl <;>
    exact ⟨_, rfl, by decide, rfl, rfl⟩

theorem escape_of_notMem {c : Char} (h : c ∉ shortEscaped) :
    escape c = if c.toNat < 0x20 then '\\' :: 'u' :: hexFixed 4 c.toNat else [c] := by
  simp only [shortEscaped, List.mem_cons, List.not_mem_nil, or_false, not_or] at h
  obtain ⟨hq, hb, hbs, hff, hn, hr, ht⟩ := h
  unfold escape
  rw [if_neg hq, if_neg hb, if_neg hbs, if_neg hff, if_neg hn, if_neg hr, if_neg ht]

/-- the four digits of a control -/
theorem hexCode?_hexFixed {n : Nat} (h : n < 0x20) :
    ∃ a b c d, hexFixed 4 n = [a, b, c, d] ∧ hexCode? a b c d = some n := by
  have hall : ∀ n < 0x20, hexCode? ((hexFixed 4 n)[0]!) ((hexFixed 4 n)[1]!) ((hexFixed 4 n)[2]!)
      ((hexFixed 4 n)[3]!) = some n := by decide
  have hl : (hexFixed 4 n).length = 4 := length_fixedIn 16 4 n
  have hn := hall n h
  match hcs : hexFixed 4 n with
  | [a, b, c, d] =>
    rw [hcs] at hn
    exact ⟨a, b, c, d, rfl, hn⟩
  | [] | [_] | [_, _] | [_, _, _] | _ :: _ :: _ :: _ :: _ :: _ =>
    rw [hcs] at hl
    simp at hl

theorem strUnits?_short {c e : Char} (hu : e ≠ 'u') (he : escaped? e = some c) (r : List Char) :
    strUnits? ('\\' :: e :: r) = (strUnits? r).map fun (us, r) => (.char c :: us, r) := by
  rw [strUnits?]
  · simp only [he, Option.bind_eq_bind, Option.bind_some]
    cases strUnits? r <;> rfl
  · intro _ _ _ _ _ h
    exact absurd h hu

theorem strUnits?_plain {c : Char} (hq : c ≠ '\x22') (hb : c ≠ '\\') (hc : ¬ c.toNat < 0x20)
    (r : List Char) : strUnits? (c :: r) = (strUnits? r).map fun (us, r) => (.char c :: us, r) := by
  rw [strUnits?]
  · rw [if_neg hc]
    cases strUnits? r <;> rfl
  · exact hq
  · intro _ _ _ _ _ h
    exact absurd h hb
  · intro _ _ h
    exact absurd h hb

theorem strUnits?_escape (c : Char) (r : List Char) :
    strUnits? (escape c ++ r) = (strUnits? r).map fun (us, r) => (unitOf c :: us, r) := by
  by_cases hshort : c ∈ shortEscaped
  · obtain ⟨e, he, hu, hx, hunit⟩ := escape_of_mem hshort
    rw [he, hunit]
    exact strUnits?_short hu hx r
  · rw [escape_of_notMem hshort]
    unfold unitOf
    split
    · rename_i hc
      obtain ⟨a, b, d, e, hd, hv⟩ := hexCode?_hexFixed hc
      rw [if_pos ⟨hc, hshort⟩, hd]
      cases h : strUnits? r <;> simp [strUnits?, hv, h]
    · rename_i hc
      rw [if_neg fun h => hc h.1]
      have hne : ∀ x ∈ shortEscaped, c ≠ x := fun x hx e => hshort (e ▸ hx)
      exact strUnits?_plain (hne _ (by decide)) (hne _ (by decide)) hc r

theorem strUnits?_quoted (cs : List Char) (r : List Char) :
    strUnits? (cs.flatMap escape ++ '\x22' :: r) = some (cs.map unitOf, r) := by
  induction cs with
  | nil => simp [strUnits?]
  | cons c cs ih => rw [List.flatMap_cons, List.append_assoc, strUnits?_escape, ih]; rfl

/-- A control is no half of a surrogate pair. -/
theorem joinUnits_code {n : Nat} (h : n < 0x20) (us : List StrUnit) :
    joinUnits (.code n :: us) = (joinUnits us).map (Char.ofNat n :: ·) := by
  match us with
  | [] | .char c :: us =>
    rw [joinUnits]
    exact if_neg (by omega)
  | .code lo :: us => rw [joinUnits, if_neg (by omega), if_neg (by omega)]

theorem joinUnits_cons (c : Char) (us : List StrUnit) :
    joinUnits (unitOf c :: us) = (joinUnits us).map (c :: ·) := by
  unfold unitOf
  split
  · rename_i hc
    rw [joinUnits_code hc.1, Char.ofNat_toNat]
  · rw [joinUnits]

theorem joinUnits_map (cs : List Char) : joinUnits (cs.map unitOf) = some cs := by
  induction cs with
  | nil => rfl
  | cons c cs ih => rw [List.map_cons, joinUnits_cons, ih, Option.map_some]

theorem token?_literal (s : String) (r : List Char) :
    token? (literalChars (some s) ++ r) = some (.leaf (.text s), r) := by
  show (strUnits? (s.toList.flatMap escape ++ ['\x22'] ++ r)).map _ = _
  rw [List.append_assoc, List.singleton_append, strUnits?_quoted, Option.map_some]
  dsimp only
  rw [joinUnits_map, Option.map_some, String.ofList_toList]
  rfl

/-! ## numbers -/

/-- the text after a value -/
def Stops (r : List Char) : Prop := ∀ c ∈ r.head?, c = ',' ∨ c = '\n'

theorem Stops.noDigitFirst {r : List Char} (h : Stops r) : NoDigitFirst r := fun c hc => by
  rcases h c hc with rfl | rfl <;> decide

theorem wholePart?_digits (n : Nat) {r : List Char} (hr : NoDigitFirst r) :
    wholePart? (digits n ++ r) = some (digits n, r) := by
  have hd : ∀ c ∈ digits n, c.isDigit = true := fun _ => isDigit_of_mem_digits
  cases hcs : digits n with
  | nil => exact absurd hcs Nat.toDigits_ne_nil
  | cons c cs =>
    by_cases hc : c = '0'
    · obtain rfl : n = 0 := digits_zero_head (hc ▸ hcs)
      obtain ⟨rfl, rfl⟩ := List.cons.inj hcs
      rfl
    · rw [List.cons_append, wholePart?, ← List.cons_append, ← hcs, takeWhile_isDigit hd hr,
        dropWhile_isDigit hd hr]
      · rw [if_neg (by simp [hcs])]
      · exact fun _ e => hc (List.cons.inj e).1

theorem fractionEnd?_of_stops {r : List Char} (h : Stops r) : fractionEnd? r = some (false, r) := by
  unfold fractionEnd?
  split
  · exact absurd (h '.' rfl) (by decide)
  · rfl

theorem exponentEnd?_of_stops {r : List Char} (h : Stops r) : exponentEnd? r = some (false, r) := by
  cases r with
  | nil => rfl
  | cons c r => rcases h c rfl with rfl | rfl <;> rfl

theorem number?_digits {r : List Char} (hr : Stops r) (neg : Bool) {n : Nat}
    (hn : neg = true → n ≠ 0) :
    number? neg (digits n ++ r) = some (.int (if neg then -(n : Int) else n), r) := by
  have hzero : (neg && n == 0) = false := by
    cases neg with
    | false => rfl
    | true => simpa using hn rfl
  unfold number?
  simp only [wholePart?_digits n hr.noDigitFirst, fractionEnd?_of_stops hr,
    exponentEnd?_of_stops hr, digitsValue_digits, hzero, Option.bind_eq_bind, Option.bind_some,
    Bool.or_false, Bool.false_eq_true, if_false]

/-- what begins with a digit is a numeral -/
theorem token?_of_isDigit {c : Char} (h : c.isDigit = true) (r : List Char) :
    token? (c :: r) = (number? false (c :: r)).map fun (v, r) => (.leaf v, r) := by
  rw [token?]
  all_goals
    intro _ e
    obtain ⟨rfl, -⟩ := List.cons.inj e
    exact absurd h (by decide)

theorem token?_decimal (n : Int) {r : List Char} (hr : Stops r) :
    token? (decimalChars n ++ r) = some (.leaf (.int n), r) := by
  cases n with
  | ofNat n =>
    have hnum := number?_digits hr false (n := n) (by simp)
    cases hcs : digits n with
    | nil => exact absurd hcs Nat.toDigits_ne_nil
    | cons c cs =>
      have hc : c.isDigit = true := isDigit_of_mem_digits (hcs ▸ List.mem_cons_self)
      rw [hcs] at hnum
      show token? (digits n ++ r) = _
      rw [hcs, List.cons_append, token?_of_isDigit hc, ← List.cons_append, hnum]
      rfl
  | negSucc n =>
    have hnum := number?_digits hr true (n := n + 1) (by simp)
    show (number? true (digits (n + 1) ++ r)).map _ = _
    rw [hnum]
    rfl

/-! ## texts -/

/-- a text is cut into tokens, with fuel for each of its characters -/
def Lexes (cs : List Char) (ts : List Token) : Prop :=
  ∀ fuel, cs.length ≤ fuel → tokensWithin fuel cs = some ts

theorem lexes_nil : Lexes [] [] := fun fuel _ => by
  unfold tokensWithin
  rfl

theorem Lexes.gap {c : Char} {cs : List Char} {ts : List Token} (hc : isGap c = true)
    (h : Lexes cs ts) : Lexes (c :: cs) ts := fun fuel hf => by
  rw [← h fuel (Nat.le_of_succ_le hf)]
  unfold tokensWithin
  rw [List.dropWhile_cons_of_pos hc]

theorem Lexes.newline {cs : List Char} {ts : List Token} (depth : Nat) (h : Lexes cs ts) :
    Lexes (newline depth ++ cs) ts := by
  refine .gap (by decide) ?_
  induction 2 * depth with
  | zero => exact h
  | succ n ih => exact .gap (by decide) ih

theorem Lexes.token {c : Char} {r r' : List Char} {t : Token} {ts : List Token}
    (hc : isGap c = false) (ht : token? (c :: r) = some (t, r')) (hl : r'.length ≤ r.length)
    (h : Lexes r' ts) : Lexes (c :: r) (t :: ts) := fun fuel hf => by
  cases fuel with
  | zero => simp at hf
  | succ fuel =>
    unfold tokensWithin
    rw [List.dropWhile_cons_of_neg (by simp [hc])]
    simp only [ht, Option.bind_eq_bind, Option.bind_some]
    rw [h fuel (by simp at hf; omega)]
    rfl

theorem Lexes.literal {k : Literal} (hk : k.isSome = true) {r : List Char} {ts : List Token}
    (h : Lexes r ts) : Lexes (literalChars k ++ r) (.leaf (.str k) :: ts) := by
  obtain ⟨s, rfl⟩ := Option.isSome_iff_exists.1 hk
  refine .token (by decide) (token?_literal s r) ?_ h
  simp
  omega

theorem isGap_of_isDigit {c : Char} (h : c.isDigit = true) : isGap c = false := by
  refine Bool.eq_false_iff.2 fun hc => ?_
  simp only [isGap, Bool.or_eq_true, beq_iff_eq] at hc
  rcases hc with ((rfl | rfl) | rfl) | rfl <;> exact absurd h (by decide)

theorem Lexes.decimal (n : Int) {r : List Char} {ts : List Token} (hr : Stops r)
    (h : Lexes r ts) : Lexes (decimalChars n ++ r) (.leaf (.int n) :: ts) := by
  have ht := token?_decimal n hr
  cases hcs : decimalChars n with
  | nil =>
    cases n with
    | ofNat n => exact absurd hcs Nat.toDigits_ne_nil
    | negSucc n => cases hcs
  | cons c cs =>
    have hc : isGap c = false := by
      cases n with
      | ofNat n =>
        have hds : digits n = c :: cs := hcs
        exact isGap_of_isDigit (isDigit_of_mem_digits (hds ▸ List.mem_cons_self))
      | negSucc n =>
        obtain ⟨rfl, -⟩ := List.cons.inj hcs
        rfl
    rw [hcs] at ht
    refine .token hc ht ?_ h
    simp

/-! ## values -/

theorem stops_newline (depth : Nat) (r : List Char) : Stops (newline depth ++ r) := fun c hc => by
  obtain rfl : '\n' = c := Option.some.inj hc
  exact .inr rfl

theorem stops_comma (r : List Char) : Stops (',' :: r) := fun c hc => by
  obtain rfl : ',' = c := Option.some.inj hc
  exact .inl rfl

/-- A printed value is cut into its tokens, whatever stops it. -/
def Cut (v : Json) : Prop :=
  ∀ (depth : Nat) (r : List Char) (ts : List Token), Stops r → Lexes r ts →
    Lexes (prettyChars depth v ++ r) (tokensOf v ++ ts)

theorem lexes_items {vs : List Json} (hv : ∀ v ∈ vs, Cut v) (hne : vs ≠ []) (depth : Nat)
    {r : List Char} {ts : List Token} (hs : Stops r) (hr : Lexes r ts) :
    Lexes (prettyItems depth vs ++ r) (itemTokens vs ++ ts) := by
  induction vs with
  | nil => exact absurd rfl hne
  | cons v vs ih =>
    have hcut := hv v List.mem_cons_self
    cases vs with
    | nil => exact hcut depth r ts hs hr
    | cons w vs =>
      have hrest := ih (fun v h => hv v (List.mem_cons_of_mem _ h)) (by simp)
      have h := hcut depth _ _ (stops_comma _) (.token (by decide) rfl (Nat.le_refl _)
        (hrest.newline depth))
      simpa [prettyItems, itemTokens] using h

theorem lexes_fields {fs : List (Literal × Json)} (hk : ∀ f ∈ fs, f.1.isSome = true)
    (hv : ∀ f ∈ fs, Cut f.2) (hne : fs ≠ []) (depth : Nat) {r : List Char} {ts : List Token}
    (hs : Stops r) (hr : Lexes r ts) :
    Lexes (prettyFields depth fs ++ r) (fieldTokens fs ++ ts) := by
  induction fs with
  | nil => exact absurd rfl hne
  | cons f fs ih =>
    obtain ⟨k, v⟩ := f
    have hcut := hv (k, v) List.mem_cons_self
    have hfield : ∀ {r ts}, Stops r → Lexes r ts →
        Lexes (literalChars k ++ ':' :: ' ' :: (prettyChars depth v ++ r))
          (.leaf (.str k) :: .colon :: (tokensOf v ++ ts)) := fun hs hr =>
      .literal (hk (k, v) List.mem_cons_self) (.token (by decide) rfl (Nat.le_refl _)
        (.gap (by decide) (hcut depth _ _ hs hr)))
    cases fs with
    | nil => simpa [prettyFields, fieldTokens] using hfield hs hr
    | cons g fs =>
      have hrest := ih (fun f h => hk f (List.mem_cons_of_mem _ h))
        (fun f h => hv f (List.mem_cons_of_mem _ h)) (by simp)
      have h := hfield (stops_comma _) (.token (by decide) rfl (Nat.le_refl _)
        (hrest.newline depth))
      simpa [prettyFields, fieldTokens] using h

/-- **A printed value is cut into its tokens.** -/
theorem lexes_value {v : Json} (h : Plain v) : Cut v := by
  induction h with
  | null => exact fun _ r ts _ hr => .token (by decide) rfl (Nat.le_add_right _ 3) hr
  | bool b =>
    cases b with
    | true => exact fun _ r ts _ hr => .token (by decide) rfl (Nat.le_add_right _ 3) hr
    | false => exact fun _ r ts _ hr => .token (by decide) rfl (Nat.le_add_right _ 4) hr
  | int n => exact fun _ r ts hs hr => hr.decimal n hs
  | text s => exact fun _ r ts _ hr => .literal rfl hr
  | @list vs _ ih =>
    intro depth r ts hs hr
    have hclose : Lexes (']' :: r) (.closeList :: ts) := .token (by decide) rfl (Nat.le_refl _) hr
    cases vs with
    | nil => exact .token (by decide) rfl (Nat.le_refl _) hclose
    | cons v vs =>
      have hitems := lexes_items ih (by simp) (depth + 1) (stops_newline depth _)
        (hclose.newline depth)
      have h := Lexes.token (c := '[') (by decide) rfl (Nat.le_refl _) (hitems.newline (depth + 1))
      simpa [prettyChars, tokensOf] using h
  | @record fs hk _ ih =>
    intro depth r ts hs hr
    have hclose : Lexes ('\x7d' :: r) (.closeRec :: ts) := .token (by decide) rfl (Nat.le_refl _) hr
    cases fs with
    | nil => exact .token (by decide) rfl (Nat.le_refl _) hclose
    | cons f fs =>
      have hfields := lexes_fields hk ih (by simp) (depth + 1) (stops_newline depth _)
        (hclose.newline depth)
      have h := Lexes.token (c := '\x7b') (by decide) rfl (Nat.le_refl _)
        (hfields.newline (depth + 1))
      simpa [prettyChars, tokensOf] using h

theorem tokens?_pretty {v : Json} (h : Plain v) : tokens? v.pretty = some (tokensOf v) := by
  have hcut := lexes_value h 0 [] [] (fun _ hc => by cases hc) lexes_nil
  rw [List.append_nil, List.append_nil] at hcut
  unfold tokens? pretty
  rw [String.toList_ofList]
  exact hcut _ (by simp)

end Json
end MailBrowser
