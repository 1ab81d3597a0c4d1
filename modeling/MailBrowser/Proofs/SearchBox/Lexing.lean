import Mathlib.Data.List.TakeWhile
import MailBrowser.SearchBox.Lexeme

/-!
# Parts and what stands around them

A blank parts a line.  What comes after it is read as if it stood alone, and so is what comes before
it if no quote is open there.

* `lexemes_cons_blank`, `lexemes_cons_solid`   the steps of the reader;
* `next_append`        the first part of a text without quotes does not depend on what comes after
                       a blank;
* `lexemes_append`     so a line is the parts before a blank and the parts after it;
* `Reads`              a text that is one part, if nothing or a blank comes after it;
* `lexemes_joined`     such texts with a blank between them are read as their parts.
-/

namespace MailBrowser.SearchBox
open Text

variable {cs r v w : List Char} {c : Char} {l : Lexeme}

/-! ## blanks -/

theorem isLetter_iff :
    isLetter c = true ↔ (65 ≤ c.toNat ∧ c.toNat ≤ 90) ∨ 97 ≤ c.toNat ∧ c.toNat ≤ 122 := by
  show (decide ('A'.val ≤ c.val ∧ c.val ≤ 'Z'.val) ||
    decide ('a'.val ≤ c.val) && decide (c.val ≤ 'z'.val)) = true ↔ _
  simp only [Bool.or_eq_true, Bool.and_eq_true, decide_eq_true_iff, UInt32.le_iff_toNat_le]
  exact Iff.rfl

theorem not_isLetter_of_isBlank (h : isBlank c = true) : isLetter c = false := by
  refine Bool.eq_false_iff.2 fun hl => ?_
  have hletter := isLetter_iff.1 hl
  simp only [isBlank, inRuns, blankRuns, List.any_cons, List.any_nil, Bool.or_eq_true,
    Bool.and_eq_true, decide_eq_true_eq, Bool.or_false] at h
  omega

theorem ne_of_isBlank {d : Char} (h : isBlank c = true) (hd : isBlank d = false) : c ≠ d := by
  rintro rfl
  rw [h] at hd
  cases hd

theorem not_isSolid_of_isBlank (h : isBlank c = true) : isSolid c = false := by
  rw [isSolid, h]
  rfl

theorem lexemes_nil : lexemes [] = [] := by rw [lexemes]

theorem lexemes_cons_blank (h : isBlank c = true) (cs : List Char) :
    lexemes (c :: cs) = lexemes cs := by
  rw [lexemes, dif_neg (by simp [not_isSolid_of_isBlank h])]

theorem lexemes_cons_solid (h : isSolid c = true) (cs : List Char) :
    lexemes (c :: cs) = (next (c :: cs)).1 :: lexemes (next (c :: cs)).2 := by
  rw [lexemes, dif_pos h]

theorem lexemes_blank (h : cs.all isBlank = true) : lexemes cs = [] := by
  induction cs with
  | nil => exact lexemes_nil
  | cons c cs ih =>
    rw [List.all_cons, Bool.and_eq_true] at h
    rw [lexemes_cons_blank h.1, ih h.2]

/-! ## runs that end before a character -/

section
variable {p : Char → Bool}

theorem takeWhile_append_stop (h : p c = false) (cs r : List Char) :
    (cs ++ c :: r).takeWhile p = cs.takeWhile p := by
  induction cs with
  | nil => simp [h]
  | cons x cs ih => cases hx : p x <;> simp [hx, ih]

theorem dropWhile_append_stop (h : p c = false) (cs r : List Char) :
    (cs ++ c :: r).dropWhile p = cs.dropWhile p ++ c :: r := by
  induction cs with
  | nil => simp [h]
  | cons x cs ih => cases hx : p x <;> simp [hx, ih]

end

/-! ## a line and what comes after a blank -/

/-- a part with more behind what it leaves over -/
def withMore (r : List Char) (x : Lexeme × List Char) : Lexeme × List Char := (x.1, x.2 ++ r)

theorem value?_run (h : cs.head? ≠ some '\x22') : value? cs = run? cs := by
  obtain ⟨r, -, rfl, -⟩ | hrun := value?_cases cs
  · exact absurd rfl h
  · exact hrun

theorem value?_append (hc : isBlank c = true) (hq : '\x22' ∉ cs) (r : List Char) :
    value? (cs ++ c :: r) = (value? cs).map fun v => (v.1, v.2.1, v.2.2 ++ c :: r) := by
  have hs := not_isSolid_of_isBlank hc
  have hhead : (cs ++ c :: r).head? ≠ some '\x22' := by
    cases cs with
    | nil => simpa using ne_of_isBlank hc (by decide)
    | cons x cs => simpa using fun e : x = '\x22' => hq (e ▸ List.mem_cons_self)
  have hhead' : cs.head? ≠ some '\x22' := fun e => hq (List.mem_of_head? e)
  rw [value?_run hhead, value?_run hhead', run?, run?, takeWhile_append_stop hs,
    dropWhile_append_stop hs]
  split <;> rfl

theorem operator?_append (hc : isBlank c = true) (hq : '\x22' ∉ cs) (r : List Char) :
    operator? (cs ++ c :: r) = (operator? cs).map (withMore (c :: r)) := by
  have hl := not_isLetter_of_isBlank hc
  unfold operator?
  rw [takeWhile_append_stop hl, dropWhile_append_stop hl]
  cases cs.takeWhile isLetter with
  | nil => rfl
  | cons x op =>
    cases hd : cs.dropWhile isLetter with
    | nil =>
      -- the letters go up to the blank, which is no colon
      have hne := ne_of_isBlank (d := ':') hc (by decide)
      simp only [List.nil_append]
      split
      · rename_i e
        exact absurd (List.cons.inj e).1 hne
      · rfl
    | cons y rest =>
      have hrest : '\x22' ∉ rest := fun h =>
        hq ((List.dropWhile_suffix _).subset (hd ▸ List.mem_cons_of_mem y h))
      by_cases hy : y = ':'
      · subst hy
        simp only [List.cons_append, value?_append hc hrest, Option.map_map]
        rfl
      · simp [hy]

theorem phrase?_of_head (h : cs.head? ≠ some '\x22') : phrase? cs = none := by
  unfold phrase?
  split
  · exact absurd rfl h
  · rfl

theorem next_append (hc : isBlank c = true) (hne : cs ≠ []) (hq : '\x22' ∉ cs) (r : List Char) :
    next (cs ++ c :: r) = withMore (c :: r) (next cs) := by
  have hs := not_isSolid_of_isBlank hc
  have hhead : (cs ++ c :: r).head? = cs.head? := by
    cases cs with
    | nil => exact absurd rfl hne
    | cons x cs => rfl
  have hhead' : cs.head? ≠ some '\x22' := fun e => hq (List.mem_of_head? e)
  unfold next
  rw [operator?_append hc hq]
  cases operator? cs with
  | some x => rfl
  | none =>
    rw [phrase?_of_head hhead', phrase?_of_head (hhead ▸ hhead')]
    show (Lexeme.word _, _) = (Lexeme.word _, _)
    rw [takeWhile_append_stop hs, dropWhile_append_stop hs]

/-- **The parts of a line are those before a blank and those after it, if no quote comes before
it.** -/
theorem lexemes_append (hc : isBlank c = true) (hq : '\x22' ∉ cs) (r : List Char) :
    lexemes (cs ++ c :: r) = lexemes cs ++ lexemes r := by
  induction cs using lexemes.induct with
  | case1 => rw [List.nil_append, lexemes_cons_blank hc, lexemes_nil, List.nil_append]
  | case2 x cs hx ih =>
    have hrest : '\x22' ∉ (next (x :: cs)).2 := fun h =>
      hq (List.mem_cons_of_mem x ((next_suffix hx).subset h))
    have hnext := next_append hc (List.cons_ne_nil x cs) hq r
    rw [List.cons_append] at hnext ⊢
    rw [lexemes_cons_solid hx, lexemes_cons_solid hx, hnext, withMore, ih hrest, List.cons_append]
  | case3 x cs hx ih =>
    have hblank : isBlank x = true := by simpa [isSolid] using hx
    rw [List.cons_append, lexemes_cons_blank hblank, lexemes_cons_blank hblank,
      ih fun h => hq (List.mem_cons_of_mem x h)]

/-! ## texts that are one part -/

/-- what may come after a part: nothing, or a blank -/
def Parted (r : List Char) : Prop := ∀ c, r.head? = some c → isBlank c = true

def Reads (l : Lexeme) (w : List Char) : Prop :=
  ∀ r, Parted r → lexemes (w ++ r) = l :: lexemes r

theorem parted_nil : Parted [] := fun _ h => by cases h

theorem parted_cons (h : isBlank c = true) (r : List Char) : Parted (c :: r) := fun _ hd =>
  Option.some.inj hd ▸ h

theorem reads_of_next (hw : ∃ c cs, w = c :: cs ∧ isSolid c = true)
    (h : ∀ r, Parted r → next (w ++ r) = (l, r)) : Reads l w := by
  intro r hr
  obtain ⟨c, cs, rfl, hc⟩ := hw
  have hnext := h r hr
  rw [List.cons_append] at hnext ⊢
  rw [lexemes_cons_solid hc, hnext]

/-- **Texts that are one part each, with a blank between them, are read as their parts.** -/
theorem lexemes_joined {α : Type} {lexeme : α → Lexeme} {written : α → List Char} {ps : List α}
    (h : ∀ p ∈ ps, Reads (lexeme p) (written p)) :
    lexemes ([' '].intercalate (ps.map written)) = ps.map lexeme := by
  induction ps with
  | nil => exact lexemes_nil
  | cons p ps ih =>
    have hp := h p List.mem_cons_self
    cases ps with
    | nil =>
      have hone := hp [] parted_nil
      rw [List.append_nil, lexemes_nil] at hone
      simpa using hone
    | cons p' ps =>
      have hjoin : [' '].intercalate ((p :: p' :: ps).map written) =
          written p ++ ' ' :: [' '].intercalate ((p' :: ps).map written) := rfl
      rw [hjoin, hp _ (parted_cons (by decide) _), lexemes_cons_blank (by decide),
        ih fun q hq => h q (List.mem_cons_of_mem p hq)]
      rfl

/-! ### quotes and operators -/

theorem quoted?_closed (hv : '\x22' ∉ v) (r : List Char) :
    quoted? (v ++ '\x22' :: r) = some (v, r) := by
  have hall : ∀ x ∈ v, (x != '\x22') = true := fun x hx => by
    simpa using fun e : x = '\x22' => hv (e ▸ hx)
  unfold quoted?
  rw [if_pos (by simp), takeWhile_append_stop (by rfl), dropWhile_append_stop (by rfl),
    List.takeWhile_eq_self_iff.2 hall, List.dropWhile_eq_nil_iff.2 hall]
  rfl

theorem reads_phrase (hv : '\x22' ∉ v) : Reads (.phrase v) ('\x22' :: v ++ ['\x22']) := by
  refine reads_of_next ⟨_, _, rfl, by decide⟩ fun r _ => ?_
  have hop : operator? ('\x22' :: v ++ ['\x22'] ++ r) = none := rfl
  have hphrase : phrase? ('\x22' :: v ++ ['\x22'] ++ r) = some (.phrase v, r) := by
    simp [phrase?, quoted?_closed hv]
  unfold next
  rw [hop, hphrase]

/-- the name of an operator -/
structure IsName (op : List Char) : Prop where
  ne_nil : op ≠ []
  letters : ∀ c ∈ op, isLetter c = true

instance (op : List Char) : Decidable (IsName op) :=
  decidable_of_iff (op ≠ [] ∧ op.all isLetter = true)
    ⟨fun h => ⟨h.1, List.all_eq_true.1 h.2⟩, fun h => ⟨h.ne_nil, List.all_eq_true.2 h.letters⟩⟩

theorem isSolid_of_isLetter (h : isLetter c = true) : isSolid c = true := by
  cases hb : isBlank c with
  | false => simp [isSolid, hb]
  | true =>
    rw [not_isLetter_of_isBlank hb] at h
    cases h

theorem operator?_named {op : List Char} (hop : IsName op) (cs : List Char) :
    operator? (op ++ ':' :: cs) =
      (value? cs).map fun v => (.operator op v.1 (op ++ ':' :: v.2.1), v.2.2) := by
  unfold operator?
  rw [takeWhile_append_stop (by rfl), dropWhile_append_stop (by rfl),
    List.takeWhile_eq_self_iff.2 hop.letters, List.dropWhile_eq_nil_iff.2 hop.letters]
  cases op with
  | nil => exact absurd rfl hop.ne_nil
  | cons x op => rfl

/-- An operator is a part if its value is read up to the end. -/
theorem reads_operator {op written : List Char} (hop : IsName op)
    (hv : ∀ r, Parted r → value? (written ++ r) = some (v, written, r)) :
    Reads (.operator op v (op ++ ':' :: written)) (op ++ ':' :: written) := by
  refine reads_of_next ?_ fun r hr => ?_
  · cases op with
    | nil => exact absurd rfl hop.ne_nil
    | cons x op => exact ⟨x, _, rfl, isSolid_of_isLetter (hop.letters x List.mem_cons_self)⟩
  · unfold next
    rw [List.append_assoc, List.cons_append, operator?_named hop, hv r hr]
    rfl

theorem reads_quoted {op : List Char} (hop : IsName op) (hv : '\x22' ∉ v) :
    Reads (.operator op v (op ++ ':' :: ('\x22' :: v ++ ['\x22'])))
      (op ++ ':' :: ('\x22' :: v ++ ['\x22'])) := by
  refine reads_operator hop fun r _ => ?_
  simp [value?, quoted?_closed hv]

theorem reads_run {op : List Char} (hop : IsName op) (hne : v ≠ []) (hq : '\x22' ∉ v)
    (hs : ∀ c ∈ v, isSolid c = true) :
    Reads (.operator op v (op ++ ':' :: v)) (op ++ ':' :: v) := by
  refine reads_operator hop fun r hr => ?_
  have hhead : (v ++ r).head? ≠ some '\x22' := by
    cases v with
    | nil => exact absurd rfl hne
    | cons x v => simpa using fun e : x = '\x22' => hq (e ▸ List.mem_cons_self)
  have htake : (v ++ r).takeWhile isSolid = v ∧ (v ++ r).dropWhile isSolid = r := by
    cases r with
    | nil => simp [List.takeWhile_eq_self_iff.2 hs, List.dropWhile_eq_nil_iff.2 hs]
    | cons c r =>
      have hc := not_isSolid_of_isBlank (hr c rfl)
      rw [takeWhile_append_stop hc, dropWhile_append_stop hc, List.takeWhile_eq_self_iff.2 hs,
        List.dropWhile_eq_nil_iff.2 hs]
      exact ⟨rfl, rfl⟩
  rw [value?_run hhead, run?, htake.1, htake.2, if_neg hne]

end MailBrowser.SearchBox
