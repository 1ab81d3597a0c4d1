import MailBrowser.Proofs.Navigation.Stack
import MailBrowser.Proofs.Reading.Steps

/-!
# The hits of a text in a message

The hits are worked out when a text is entered, in the message that is there.  They stay with the
view through its crumb, and are dropped with its message; only an arrival puts another message, or
the first one, under hits that are there already.

* `hasInfix_iff`    whether one text occurs in another, against lists;
* `Find.Finds`      the hits are all lines of a message that hold the text, in order;
* `Find.Pointed`    the hit to look at is one of them, or the first where there are none;
* `Marked`          both, for the message on screen while a text is looked for;
* `Misses`          a message that arrives under the hits of another, or of none;
* `marked_iff`      in a session the hits are right in every state exactly if no step misses.
-/

namespace MailBrowser

namespace Text

theorem hasInfix_iff {needle s : List Char} : hasInfix needle s = true ↔ needle <:+: s := by
  induction s with
  | nil => rw [hasInfix, List.isEmpty_iff, List.infix_nil]
  | cons c cs ih => rw [hasInfix, Bool.or_eq_true, List.isPrefixOf_iff_prefix, ih, List.infix_cons_iff]

end Text

open Text

structure Find.Finds (f : Find) (d : Detail) : Prop where
  ascending : f.hits.Pairwise (· < ·)
  lines : ∀ i, i ∈ f.hits ↔
    ∃ line, d.lines[i]? = some line ∧ (lower f.text).toList <:+: (lower line).toList

def Find.Pointed (f : Find) : Prop := f.hit < f.hits.length ∨ (f.hits = [] ∧ f.hit = 0)

namespace Browser

/-! ## entering a text -/

theorem mem_linesWith (d : Detail) (needle : String) (i : Nat) :
    i ∈ linesWith (some d) needle ↔
      ∃ line, d.lines[i]? = some line ∧ needle.toList <:+: (lower line).toList := by
  unfold linesWith
  dsimp only
  rw [List.mem_map]
  constructor
  · rintro ⟨⟨line, j⟩, hm, rfl⟩
    obtain ⟨hl, hn⟩ := List.mem_filter.1 hm
    exact ⟨line, List.mem_zipIdx_iff_getElem?.1 hl, hasInfix_iff.1 hn⟩
  · rintro ⟨line, hl, hn⟩
    exact ⟨(line, i), List.mem_filter.2 ⟨List.mem_zipIdx_iff_getElem?.2 hl, hasInfix_iff.2 hn⟩, rfl⟩

/-- Numbers of lines ascend, and so do those of some of them. -/
theorem linesWith_ascending (d : Detail) (needle : String) :
    (linesWith (some d) needle).Pairwise (· < ·) := by
  unfold linesWith
  dsimp only
  rw [List.pairwise_map]
  refine List.Pairwise.filter _ ?_
  rw [← List.pairwise_map (f := Prod.snd) (R := fun i j : Nat => i < j), List.zipIdx_map_snd]
  exact List.pairwise_lt_range'

theorem finds_of_hits {f : Find} {d : Detail} (h : f.hits = linesWith (some d) (lower f.text)) :
    f.Finds d where
  ascending := by rw [h]; exact linesWith_ascending d _
  lines i := by rw [h]; exact mem_linesWith d _ i

/-! ## hits that are kept -/

/-- what holds of the hits of a view, on screen or on the way back -/
structure Sought (level : Level) (detail : Option Detail) (f : Find) : Prop where
  pointed : f.Pointed
  finds : level = .reading → ∀ d, detail = some d → f.text.isEmpty = false → f.Finds d

def SoughtIn (v : View) : Prop := Sought v.level v.data.detail v.find

structure AllSought (b : Browser) : Prop where
  view : SoughtIn b.view
  crumbs : ∀ crumb ∈ b.crumbs, SoughtIn crumb.restore

variable {b c : Browser} {s : Step} {e : Event} {level : Level} {detail : Option Detail} {f : Find}

theorem Sought.of_none (h : f.Pointed) : Sought level none f := ⟨h, fun _ _ hd => by cases hd⟩

theorem Sought.of_not_reading (h : f.Pointed) (hl : level ≠ .reading) : Sought level detail f :=
  ⟨h, fun hr => absurd hr hl⟩

theorem pointed_new : ({} : Find).Pointed := .inr ⟨rfl, rfl⟩

/-- A first hit is looked at if there is one. -/
theorem pointed_first (text : String) (hits : List Nat) : ({ text, hits } : Find).Pointed := by
  cases hits with
  | nil => exact .inr ⟨rfl, rfl⟩
  | cons i hits => exact .inl (Nat.succ_pos _)

theorem Looks.sought (h : Looks b f) (hb : SoughtIn b.view) :
    Sought b.view.level b.view.data.detail f := by
  cases h with
  | same => exact hb
  | typed input =>
    refine ⟨hb.pointed, fun hl d hd ht => ?_⟩
    have hf := hb.finds hl d hd ht
    exact ⟨hf.ascending, hf.lines⟩
  | dropped => exact ⟨pointed_new, fun _ _ _ ht => by cases ht⟩
  | committed text =>
    refine ⟨pointed_first text _, fun hl d hd ht => ?_⟩
    refine finds_of_hits ?_
    dsimp only at ht ⊢
    rw [hd, ht, if_neg Bool.false_ne_true]
  | stepped hit hlt =>
    refine ⟨.inl hlt, fun hl d hd ht => ?_⟩
    have hf := hb.finds hl d hd ht
    exact ⟨hf.ascending, hf.lines⟩

/-- A crumb has the message that it was left with, or none. -/
theorem soughtIn_crumb (hb : SoughtIn b.view) : SoughtIn b.crumb.restore := by
  show Sought b.view.level (b.crumb.kept.getD {}).detail b.view.find
  cases hk : b.crumb.kept with
  | none => exact .of_none hb.pointed
  | some d =>
    have hd : b.crumb.kept = none ∨ b.crumb.kept = some b.view.data := by
      show (if _ then _ else _) = none ∨ (if _ then _ else _) = some _
      split
      · exact .inr rfl
      · exact .inl rfl
    rw [hk] at hd
    rcases hd with hd | hd
    · cases hd
    · cases hd
      exact hb

theorem AllSought.of_sheets {scroll lines page : Nat} {crumbs : List Crumb}
    (h : c.sheets = ((level, detail, f, scroll), crumbs, lines, page)) (hv : Sought level detail f)
    (hc : ∀ crumb ∈ crumbs, SoughtIn crumb.restore) : c.AllSought := by
  simp only [sheets, View.sheet, Prod.mk.injEq] at h
  obtain ⟨⟨rfl, rfl, rfl, -⟩, rfl, -⟩ := h
  exact ⟨hv, hc⟩

theorem AllSought.down (hb : b.AllSought) :
    ∀ crumb ∈ b.crumb :: b.crumbs, SoughtIn crumb.restore := by
  intro crumb hc
  rcases List.mem_cons.1 hc with rfl | hc
  · exact soughtIn_crumb hb.view
  · exact hb.crumbs crumb hc

theorem Reads.allSought (h : Reads b s) (hb : b.AllSought) : s.1.AllSought := by
  cases h with
  | stay hv => exact .of_sheets hv hb.view hb.crumbs
  | look f scroll hf hs hv => exact .of_sheets hv (hf.sought hb.view) hb.crumbs
  | leave level hl hv => exact .of_sheets hv (.of_not_reading hb.view.pointed hl) hb.down
  | await crumbs hc hv =>
    refine .of_sheets hv (.of_none pointed_new) ?_
    rcases hc with rfl | rfl
    · exact hb.crumbs
    · exact hb.down
  | back crumb rest hs hc hv =>
    have hm : ∀ d ∈ crumb :: rest, SoughtIn d.restore := by rw [← hc]; exact hb.crumbs
    refine .of_sheets hv (hm crumb List.mem_cons_self) fun d hd => ?_
    exact hm d (List.mem_cons_of_mem _ hd)
  | top hv => exact .of_sheets hv (.of_none pointed_new) fun d hd => by cases hd

/-! ## messages that arrive -/

/-- The hits that are there are not those of the message that arrives. -/
inductive Misses (b : Browser) : Event → Prop where
  | shown {id : Nat} {d : Detail} (hs : b.Shows (.detailLoaded id (.ok (some d))))
      (ht : b.view.find.text.isEmpty = false) (hm : ¬ b.view.find.Finds d) :
      Misses b (.detailLoaded id (.ok (some d)))

theorem update_allSought (hb : b.AllSought) (hn : ¬ Misses b e) : (b.update e).1.AllSought := by
  rcases update_reads b e with h | ⟨height, rfl⟩ | ⟨id, d, rfl, hs⟩
  · exact h.allSought hb
  · exact ⟨hb.view, hb.crumbs⟩
  · refine .of_sheets (shown_sheets hs) ⟨hb.view.pointed, fun _ d' hd ht => ?_⟩ hb.crumbs
    cases hd
    exact Classical.byContradiction fun hm => hn (.shown hs ht hm)

/-- While a text is looked for in the message on screen, the hits are its lines with the text, in
order, and the hit to look at is one of them. -/
def Marked (b : Browser) : Prop :=
  b.view.level = .reading → ∀ d, b.view.data.detail = some d →
    b.view.find.text.isEmpty = false → b.view.find.Finds d ∧ b.view.find.Pointed

theorem Misses.not_marked (h : Misses b e) : ¬ (b.update e).1.Marked := by
  cases h with
  | shown hs ht hm =>
    have hv := shown_sheets hs
    simp only [sheets, View.sheet, Prod.mk.injEq] at hv
    obtain ⟨⟨hl, hd, hf, -⟩, -⟩ := hv
    intro h
    have hf' := (h hl _ hd (by rw [hf]; exact ht)).1
    rw [hf] at hf'
    exact hm hf'

theorem launch_allSought (c : Config) : (launch c).1.AllSought :=
  ⟨.of_none pointed_new, fun d hd => by cases hd⟩

/-- **Throughout a session the hits on screen are those of the message on screen exactly if no
message arrives under hits that are not its own.** -/
theorem marked_iff (c : Config) (es : List Event) :
    (∀ before, before <+: es → (session c before).1.Marked) ↔
      ∀ before e after, es = before ++ e :: after → ¬ Misses (session c before).1 e :=
  session_iff_unbroken launch_allSought (fun _ _ _ hb hn => update_allSought hb hn)
    (fun _ hb hl d hd ht => ⟨hb.view.finds hl d hd ht, hb.view.pointed⟩)
    (fun _ _ _ _ hm => hm.not_marked) c es

/-- A text is entered before the message is there. -/
theorem sought_before_arrival : ¬ ∀ (c : Config) (es : List Event), (session c es).1.Marked := by
  intro h
  let letter : Detail := { id := 1, subject := "one" }
  let es : List Event := [
    .rowsLoaded 1 (.ok [{ key := "alice@example.com" }]), .key .enter,
    .messagesLoaded 1 (.ok [{ id := 1, conversation := 7 }]), .key .enter, .key (.char '/'),
    .key (.char 'o'), .key .enter, .detailLoaded 1 (.ok (some letter))]
  have hl : (session {} es).1.view.level = .reading := by decide +kernel
  have hd : (session {} es).1.view.data.detail = some letter := by decide +kernel
  have hn : (session {} es).1.view.find = { text := "o" } := by decide +kernel
  have hf := (h {} es hl letter hd (by rw [hn]; rfl)).1
  rw [hn] at hf
  have hm : 0 ∈ ([] : List Nat) :=
    (hf.lines 0).2 ((mem_linesWith letter (lower "o") 0).1 (by decide +kernel))
  cases hm

end Browser
end MailBrowser
