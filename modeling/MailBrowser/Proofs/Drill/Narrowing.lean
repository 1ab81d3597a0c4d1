import MailBrowser.Proofs.Archive.Listing
import MailBrowser.Proofs.Browser.KeyStep

/-!
# Drills that narrow

A key on a dimension takes the place of the one that the dimension was held to before.  What passes
then passed before as well if the new key asks for no less.

* `Filter.held`          the key that a dimension is held to;
* `Filter.Keeps`         a new key that asks for all that the held one asks for;
* `Filter.narrows_iff`   for the key of a row that a filter has, a drill narrows exactly if this is
  so: otherwise there is a message that the drill lets in.
-/

namespace MailBrowser
open Text

/-! ## equality up to case -/

namespace Text

theorem sameAscii_symm {a b : String} (h : sameAscii a b = true) : sameAscii b a = true :=
  beq_iff_eq.2 (beq_iff_eq.1 h).symm

theorem sameAscii_trans {a b c : String} (h : sameAscii a b = true) (h' : sameAscii b c = true) :
    sameAscii a c = true :=
  beq_iff_eq.2 ((beq_iff_eq.1 h).trans (beq_iff_eq.1 h'))

end Text

namespace Message

theorem hasKey_of_sameAscii {m : Message} {d : Dimension} {g : Granularity} {k k' : String}
    (h : m.hasKey d g k = true) (hk : sameAscii k k' = true) : m.hasKey d g k' = true := by
  obtain ⟨x, hx, hs⟩ := List.any_eq_true.1 h
  exact List.any_eq_true.2 ⟨x, hx, sameAscii_trans hs hk⟩

theorem hasKey_of_keysOf_eq {m : Message} {d : Dimension} {g : Granularity} {x : String}
    (h : m.keysOf d g = [x]) (k : String) : m.hasKey d g k = sameAscii x k := by
  unfold hasKey
  rw [h, List.any_cons, List.any_nil, Bool.or_false]

theorem meets_congr {m n : Message} {f : Filter} {d : Dimension}
    (h : m.keysOf d f.granularity = n.keysOf d f.granularity) : m.meets f d = n.meets f d := by
  unfold meets hasKey
  rw [h]

theorem keysOf_ne_nil (m : Message) (d : Dimension) (g : Granularity) : m.keysOf d g ≠ [] := by
  have hset : ∀ s : OrdSet String, orEmptyKey s ≠ [] := fun s h => by
    unfold orEmptyKey at h
    split at h
    · cases h
    · rename_i hs
      exact hs (List.isEmpty_iff.2 h)
  cases d with
  | senders | senderNames | time => exact List.cons_ne_nil _ _
  | recipients | recipientNames | labels => exact hset _
  | domains =>
    unfold keysOf
    dsimp only
    split <;> exact List.cons_ne_nil _ _

/-- The empty key stands alone among the different texts of a list. -/
theorem distinct_of_empty_mem {keys : List String} (h : "" ∈ distinct keys) :
    distinct keys = [""] := by
  unfold distinct orEmptyKey at *
  split at h
  · rename_i hs
    rw [if_pos hs]
  · have := List.of_mem_filter (OrdSet.mem_ofList.1 h)
    exact absurd this (by decide)

theorem mem_distinct_of_ne {keys : List String} {k : String} (h : k ∈ keys) (hk : k ≠ "") :
    k ∈ distinct keys := by
  have hs : k ∈ OrdSet.ofList (keys.filter fun k => !k.isEmpty) :=
    OrdSet.mem_ofList.2 (List.mem_filter.2 ⟨h, by simpa using hk⟩)
  unfold distinct orEmptyKey
  split
  · rename_i he
    rw [OrdSet.mem_iff, List.isEmpty_iff.1 he] at hs
    cases hs
  · exact hs

theorem distinct_singleton (k : String) : distinct [k] = [k] := by
  by_cases hk : k = ""
  · rw [hk]
    rfl
  · have hf : [k].filter (fun k => !k.isEmpty) = [k] :=
      List.filter_cons_of_pos (by simpa using hk)
    unfold distinct
    rw [hf]
    rfl

end Message

/-! ## what a dimension is held to -/

namespace Filter

/-- the key that a dimension is held to, the empty one for messages without a value -/
def held (f : Filter) (d : Dimension) : String :=
  if f.wantsNone d then "" else (f.value d).getD ""

theorem meets_of_holds {f : Filter} {d : Dimension} (h : f.holds d = true) (m : Message) :
    m.meets f d = m.hasKey d f.granularity (f.held d) := by
  unfold Message.meets held
  by_cases hn : f.wantsNone d = true
  · rw [if_pos hn, if_pos hn]
  · rw [if_neg hn, if_neg hn]
    cases hv : f.value d with
    | some v => rfl
    | none =>
      unfold holds at h
      rw [hv, Bool.eq_false_iff.2 hn] at h
      cases h

/-- A message that meets a filter in a dimension has a key for which any other would. -/
theorem exists_key_of_meets {f : Filter} {d : Dimension} {m : Message} (h : m.meets f d = true) :
    ∃ k ∈ m.keysOf d f.granularity, ∀ n : Message, n.keysOf d f.granularity = [k] →
      n.meets f d = true := by
  by_cases hh : f.holds d = true
  · rw [meets_of_holds hh] at h
    obtain ⟨k, hk, hs⟩ := List.any_eq_true.1 h
    refine ⟨k, hk, fun n hn => ?_⟩
    rw [meets_of_holds hh, Message.hasKey_of_keysOf_eq hn]
    exact hs
  · obtain ⟨k, hk⟩ := List.exists_mem_of_ne_nil _ (m.keysOf_ne_nil d f.granularity)
    exact ⟨k, hk, fun n _ => meets_of_not_holds (Bool.eq_false_iff.2 hh) n⟩

/-- Whatever passes with a key on a dimension passed before. -/
def Narrows (f : Filter) (d : Dimension) (key : String) (g : Granularity) : Prop :=
  ∀ m : Message, m.passes (f.apply d key g) = true → m.passes f = true

theorem narrows_iff_meets {f : Filter} {d : Dimension} {key : String} {g : Granularity} :
    f.Narrows d key g ↔ ∀ m : Message, (∀ e, e ≠ d → m.meets f e = true) →
      m.hasKey d g key = true → m.meets f d = true := by
  unfold Narrows
  constructor
  · intro h m ho hk
    exact (m.passes_iff f).1 (h m ((passes_apply_iff f d key g m).2 ⟨ho, hk⟩)) d
  · intro h m hm
    obtain ⟨ho, hk⟩ := (passes_apply_iff f d key g m).1 hm
    refine (m.passes_iff f).2 fun e => ?_
    by_cases he : e = d
    · exact he ▸ h m ho hk
    · exact ho e he

/-! ## keys of rows -/

section
variable {f : Filter} {d : Dimension} {key : String} {g rows : Granularity} {m : Message}

theorem narrows_of_not_holds (h : f.holds d = false) : f.Narrows d key g :=
  narrows_iff_meets.2 fun m _ _ => meets_of_not_holds h m

theorem narrows_of_sameAscii (ht : d ≠ .time) (hh : f.holds d = true)
    (hs : sameAscii key (f.held d) = true) : f.Narrows d key g := by
  refine narrows_iff_meets.2 fun m _ hk => ?_
  rw [meets_of_holds hh, m.hasKey_of_ne_time ht _ g]
  exact m.hasKey_of_sameAscii hk hs

/-- A message that breaks the rule shows that the drill widens. -/
theorem not_narrows_of (hh : f.holds d = true) (ho : ∀ e, e ≠ d → m.meets f e = true)
    (hk : m.hasKey d g key = true) (hn : m.hasKey d f.granularity (f.held d) = false) :
    ¬ f.Narrows d key g := by
  intro h
  have := narrows_iff_meets.1 h m ho hk
  rw [meets_of_holds hh, hn] at this
  cases this

/-! ### dimensions with one key for each message -/

theorem sameAscii_of_single (hd : d.single = true) (ht : d ≠ .time) (hh : f.holds d = true)
    (hm : m.passes f = true) (hk : key ∈ m.keysOf d rows) : sameAscii key (f.held d) = true := by
  have hkeys : m.keysOf d f.granularity = [key] := by
    rw [m.keysOf_of_ne_time ht _ rows]
    obtain ⟨x, hx⟩ := List.length_eq_one_iff.1 (m.length_keysOf hd rows)
    rw [hx] at hk ⊢
    rw [List.mem_singleton.1 hk]
  have := (m.passes_iff f).1 hm d
  rwa [meets_of_holds hh, Message.hasKey_of_keysOf_eq hkeys] at this

/-! ### labels -/

/-- the message with one label -/
def relabelled (m : Message) (label : String) : Message := { m with labels := [label] }

theorem not_narrows_labels (hh : f.holds .labels = true) (hm : m.passes f = true)
    (hs : sameAscii key (f.held .labels) = false) : ¬ f.Narrows .labels key g := by
  have hkeys : ∀ g, (relabelled m key).keysOf .labels g = [key] := fun _ => rfl
  refine not_narrows_of (m := relabelled m key) hh (fun e he => ?_) ?_ ?_
  · have hsame : (relabelled m key).keysOf e f.granularity = m.keysOf e f.granularity := by
      cases e with
      | labels => exact absurd rfl he
      | _ => rfl
    rw [Message.meets_congr hsame]
    exact (m.passes_iff f).1 hm e
  · rw [Message.hasKey_of_keysOf_eq (hkeys g)]
    exact sameAscii_refl key
  · rw [Message.hasKey_of_keysOf_eq (hkeys _)]
    exact hs

/-! ### recipients and their names -/

/-- the message with one recipient -/
def readdressed (m : Message) (a : Address) : Message :=
  { m with addressees := [a], cc := [], bcc := [] }

theorem keysOf_readdressed_other {e : Dimension} (hr : e ≠ .recipients) (hn : e ≠ .recipientNames)
    (a : Address) (g : Granularity) : (readdressed m a).keysOf e g = m.keysOf e g := by
  cases e with
  | recipients => exact absurd rfl hr
  | recipientNames => exact absurd rfl hn
  | _ => rfl

theorem keysOf_readdressed_recipients (a : Address) (g : Granularity) :
    (readdressed m a).keysOf .recipients g = [lower a.email] :=
  Message.distinct_singleton _

theorem keysOf_readdressed_names (a : Address) (g : Granularity) :
    (readdressed m a).keysOf .recipientNames g = [a.nameOrEmail] :=
  Message.distinct_singleton _

/-- An address and a name that other recipients have, put together: the message keeps what a filter
asks of the dimension of the other. -/
theorem not_narrows_readdressed {other : Dimension} {a : Address}
    (hd : d = .recipients ∧ other = .recipientNames ∨ d = .recipientNames ∧ other = .recipients)
    (hh : f.holds d = true) (hm : m.passes f = true) (hs : sameAscii key (f.held d) = false)
    (ho : (readdressed m a).meets f other = true)
    (hk : ∀ g, (readdressed m a).keysOf d g = [key]) : ¬ f.Narrows d key g := by
  refine not_narrows_of (m := readdressed m a) hh (fun e he => ?_) ?_ ?_
  · by_cases heo : e = other
    · exact heo ▸ ho
    · have hne : e ≠ .recipients ∧ e ≠ .recipientNames := by
        rcases hd with ⟨rfl, rfl⟩ | ⟨rfl, rfl⟩
        · exact ⟨he, heo⟩
        · exact ⟨heo, he⟩
      rw [Message.meets_congr (keysOf_readdressed_other hne.1 hne.2 a f.granularity)]
      exact (m.passes_iff f).1 hm e
  · rw [Message.hasKey_of_keysOf_eq (hk g)]
    exact sameAscii_refl key
  · rw [Message.hasKey_of_keysOf_eq (hk _)]
    exact hs

/-- A key that the message has besides the one held is not the empty one, which stands alone. -/
theorem ne_empty_of_distinct {keys : List String} (hd : m.keysOf d f.granularity = Message.distinct keys)
    (hh : f.holds d = true) (hm : m.passes f = true) (hk : key ∈ m.keysOf d f.granularity)
    (hs : sameAscii key (f.held d) = false) : key ≠ "" := by
  rintro rfl
  rw [hd] at hk
  have hheld := (m.passes_iff f).1 hm d
  rw [meets_of_holds hh,
    Message.hasKey_of_keysOf_eq (hd.trans (Message.distinct_of_empty_mem hk)), hs] at hheld
  cases hheld

theorem not_narrows_recipients (hh : f.holds .recipients = true) (hm : m.passes f = true)
    (hk : key ∈ m.keysOf .recipients rows) (hs : sameAscii key (f.held .recipients) = false) :
    ¬ f.Narrows .recipients key g := by
  have hne : key ≠ "" := ne_empty_of_distinct rfl hh hm hk hs
  obtain ⟨a, ha, rfl⟩ := List.mem_map.1 ((Message.mem_distinct hk).resolve_right hne)
  obtain ⟨name, hname, hmeets⟩ := exists_key_of_meets ((m.passes_iff f).1 hm .recipientNames)
  -- a message with an address has a name, or the address in its place
  have hnamed : name ≠ "" := by
    rintro rfl
    have hshown : a.nameOrEmail ≠ "" := by
      unfold Address.nameOrEmail
      split
      · rintro he
        exact hne (by rw [he]; rfl)
      · rename_i hn
        exact fun he => hn (by rw [he]; rfl)
    have := Message.mem_distinct_of_ne (List.mem_map_of_mem ha) hshown
    rw [Message.distinct_of_empty_mem hname] at this
    exact hshown (List.mem_singleton.1 this)
  have hshown : (Address.mk a.email name).nameOrEmail = name :=
    if_neg fun he => hnamed (String.isEmpty_iff.1 he)
  refine not_narrows_readdressed (a := ⟨a.email, name⟩) (.inl ⟨rfl, rfl⟩) hh hm hs ?_ ?_
  · refine hmeets _ ?_
    rw [keysOf_readdressed_names, hshown]
  · exact keysOf_readdressed_recipients _

theorem not_narrows_names (hh : f.holds .recipientNames = true) (hm : m.passes f = true)
    (hk : key ∈ m.keysOf .recipientNames rows)
    (hs : sameAscii key (f.held .recipientNames) = false) : ¬ f.Narrows .recipientNames key g := by
  have hne : key ≠ "" := ne_empty_of_distinct rfl hh hm hk hs
  obtain ⟨address, haddress, hmeets⟩ := exists_key_of_meets ((m.passes_iff f).1 hm .recipients)
  obtain ⟨email, rfl⟩ : ∃ email, lower email = address := by
    rcases Message.mem_distinct haddress with h | rfl
    · obtain ⟨a, -, rfl⟩ := List.mem_map.1 h
      exact ⟨a.email, rfl⟩
    · exact ⟨"", rfl⟩
  have hshown : (Address.mk email key).nameOrEmail = key :=
    if_neg fun he => hne (String.isEmpty_iff.1 he)
  refine not_narrows_readdressed (a := ⟨email, key⟩) (.inr ⟨rfl, rfl⟩) hh hm hs ?_ fun g => ?_
  · exact hmeets _ (keysOf_readdressed_recipients _ _)
  · rw [keysOf_readdressed_names, hshown]

/-! ### periods -/

/-- the message sent at another time -/
def resent (m : Message) (t : Instant) : Message := { m with sentAt := t }

/-- A period asks for no less than a held one that is not finer.  Rows of another size than the
drill's have keys that no message has. -/
theorem narrows_time (hh : f.holds .time = true) (hm : m.passes f = true)
    (hk : key ∈ m.keysOf .time rows) (h : f.granularity.depth ≤ g.depth ∨ g ≠ rows) :
    f.Narrows .time key g := by
  obtain rfl := List.mem_singleton.1 hk
  have hheld := (m.passes_iff f).1 hm .time
  rw [meets_of_holds hh, Message.hasKey_of_keysOf_eq rfl] at hheld
  refine narrows_iff_meets.2 fun n _ hn => ?_
  rw [Message.hasKey_of_keysOf_eq rfl,
    sameAscii_iff_eq (g.noCapitals_period _) (rows.noCapitals_period _)] at hn
  have hg : g = rows := Decidable.byContradiction fun hne =>
    Granularity.period_ne hne n.sentAt m.sentAt hn
  subst hg
  have hcoarse := h.resolve_right fun hne => hne rfl
  rw [meets_of_holds hh, Message.hasKey_of_keysOf_eq rfl,
    Granularity.period_coarser hcoarse hn]
  exact hheld

theorem not_narrows_time (hh : f.holds .time = true) (hm : m.passes f = true)
    (hk : key ∈ m.keysOf .time g) (h : g.depth < f.granularity.depth) :
    ¬ f.Narrows .time key g := by
  obtain rfl := List.mem_singleton.1 hk
  have hheld := (m.passes_iff f).1 hm .time
  rw [meets_of_holds hh, Message.hasKey_of_keysOf_eq rfl] at hheld
  obtain ⟨t, hsame, hother⟩ := Granularity.exists_outside h m.sentAt
  refine not_narrows_of (m := resent m t) hh (fun e he => ?_) ?_ ?_
  · have hkeys : (resent m t).keysOf e f.granularity = m.keysOf e f.granularity := by
      cases e with
      | time => exact absurd rfl he
      | _ => rfl
    rw [Message.meets_congr hkeys]
    exact (m.passes_iff f).1 hm e
  · rw [Message.hasKey_of_keysOf_eq rfl]
    show sameAscii (g.period t) (g.period m.sentAt) = true
    rw [hsame]
    exact sameAscii_refl _
  · refine Bool.eq_false_iff.2 fun hn => hother ?_
    rw [Message.hasKey_of_keysOf_eq rfl] at hn
    exact (sameAscii_iff_eq (f.granularity.noCapitals_period _)
      (f.granularity.noCapitals_period _)).1 (sameAscii_trans hn (sameAscii_symm hheld))

end

/-! ## all dimensions -/

/-- The key of a row asks for no less than the one that its dimension is held to.  The row is of
buckets of one size, the drill reads its key at another. -/
def Refines (f : Filter) (key : String) (rows g : Granularity) : Dimension → Prop
  | .senders | .senderNames | .domains => True
  | .recipients => sameAscii key (f.held .recipients) = true
  | .recipientNames => sameAscii key (f.held .recipientNames) = true
  | .labels => sameAscii key (f.held .labels) = true
  | .time => f.granularity.depth ≤ g.depth ∨ g ≠ rows

/-- The key of a row keeps what is asked of its dimension, which may be nothing. -/
def Keeps (f : Filter) (d : Dimension) (key : String) (rows g : Granularity) : Prop :=
  f.holds d = false ∨ f.Refines key rows g d

theorem narrows_iff_refines {f : Filter} {d : Dimension} {key : String} {rows g : Granularity}
    {m : Message} (hh : f.holds d = true) (hm : m.passes f = true) (hk : key ∈ m.keysOf d rows) :
    f.Narrows d key g ↔ f.Refines key rows g d := by
  have hsingle (hd : d.single = true) (ht : d ≠ .time) : f.Narrows d key g :=
    narrows_of_sameAscii ht hh (sameAscii_of_single hd ht hh hm hk)
  cases d with
  | senders | senderNames | domains => exact iff_of_true (hsingle rfl (by decide)) trivial
  | recipients =>
    refine ⟨fun h => ?_, narrows_of_sameAscii (by decide) hh⟩
    exact Bool.of_not_eq_false fun hs => not_narrows_recipients hh hm hk hs h
  | recipientNames =>
    refine ⟨fun h => ?_, narrows_of_sameAscii (by decide) hh⟩
    exact Bool.of_not_eq_false fun hs => not_narrows_names hh hm hk hs h
  | labels =>
    refine ⟨fun h => ?_, narrows_of_sameAscii (by decide) hh⟩
    exact Bool.of_not_eq_false fun hs => not_narrows_labels hh hm hs h
  | time =>
    refine ⟨fun h => ?_, narrows_time hh hm hk⟩
    by_cases hg : g = rows
    · refine .inl (Nat.le_of_not_lt fun hlt => ?_)
      exact not_narrows_time hh hm (hg ▸ hk) hlt h
    · exact .inr hg

/-- **A drill into a row narrows exactly if the key of the row keeps what was asked of its
dimension.**  The row is one that has a message of the filter. -/
theorem narrows_iff {f : Filter} {d : Dimension} {key : String} {rows g : Granularity}
    {m : Message} (hm : m.passes f = true) (hk : key ∈ m.keysOf d rows) :
    f.Narrows d key g ↔ f.Keeps d key rows g := by
  unfold Keeps
  cases hh : f.holds d with
  | false => exact iff_of_true (narrows_of_not_holds hh) (.inl rfl)
  | true =>
    rw [or_iff_right (by decide)]
    exact narrows_iff_refines hh hm hk

end Filter

/-! ## rows within a drill -/

theorem exists_message_of_mem_keys {a : Archive} {f : Filter} {d : Dimension} {o : GroupOptions}
    {key : String} (h : key ∈ (grouped d o (a.selected f)).map Row.key) :
    ∃ m : Message, m.passes f = true ∧ key ∈ m.keysOf d o.granularity := by
  obtain ⟨r, hr, rfl⟩ := List.mem_map.1 h
  obtain ⟨all, hall, hsub⟩ := (groups_iff.2 (rfl : grouped d o (a.selected f) = _)).subset
  obtain ⟨m, hm, hk⟩ := (hall.keys r.key).1 (List.mem_map_of_mem (hsub hr))
  exact ⟨m, (Archive.mem_selected.1 (List.mem_of_mem_filter hm)).2, hk⟩

namespace Browser

variable {b : Browser}

theorem press_enter_subgroups (hb : b.Free) (hl : b.view.level = .subgroups) :
    b.press .enter = b.drill := by
  unfold press pressOnScreen pressInLevel
  rw [if_neg (by decide), hb.idle, if_neg (by decide), hb.noDialog]
  dsimp only
  rw [hb.noLine, if_neg (by decide), hb.noFind]
  dsimp only [pressInMotion?]
  rw [hl]
  rfl

theorem drill_subgroups (hl : b.view.level = .subgroups) {row : Row}
    (hr : b.view.row? = some row) :
    b.drill.1.view.level = .list ∧
      b.drill.1.view.filter =
        b.view.filter.apply b.view.dimension row.key b.view.granularity := by
  unfold drill drillBase
  rw [hr, hl]
  exact ⟨rfl, rfl⟩

/-- **Enter on a row within a drill.**  On a dimension that was held to nothing the key of the row
is one more constraint.  For a row that an archive gave for the filter, no message that was not in
is let in, exactly if the key keeps what was asked of its dimension. -/
theorem drill_narrows_iff (hb : b.Free) (hl : b.view.level = .subgroups) {row : Row}
    (hr : b.view.row? = some row) :
    let f := b.view.filter
    let d := b.view.dimension
    let f' := (b.press .enter).1.view.filter
    (b.press .enter).1.view.level = .list ∧
    (f.holds d = false → ∀ m : Message,
      m.passes f' = (m.passes f && m.hasKey d b.view.granularity row.key)) ∧
    ∀ (a : Archive) (o : GroupOptions), row.key ∈ (grouped d o (a.selected f)).map Row.key →
      ((∀ m : Message, m.passes f' = true → m.passes f = true) ↔
        f.Keeps d row.key o.granularity b.view.granularity) := by
  obtain ⟨hlevel, hfilter⟩ := drill_subgroups hl hr
  rw [press_enter_subgroups hb hl, hfilter]
  refine ⟨hlevel, fun hh m => Filter.passes_apply_of_not_holds hh _ _ m, fun a o hrow => ?_⟩
  obtain ⟨m, hm, hk⟩ := exists_message_of_mem_keys hrow
  exact Filter.narrows_iff hm hk

/-! ### one recipient after another -/

def toBoth : Message where
  id := 1
  account := 1
  providerId := "m1"
  subject := "one"
  sender := { email := "carol@example.com" }
  addressees := [{ email := "bob@example.com" }, { email := "dave@example.com" }]
  sentAt := .epoch

def toDave : Message where
  id := 2
  account := 1
  providerId := "m2"
  subject := "two"
  sender := { email := "carol@example.com" }
  addressees := [{ email := "dave@example.com" }]
  sentAt := .epoch

def twoLetters : Archive where
  accounts := [{ id := 1, identifier := "me@example.com" }]
  messages := [toBoth, toDave]

def rowOf (key : String) (count unique : Int) : Row := { key, count, unique }

/-- Into a recipient, to the domains of the senders. -/
def amongDomains : List Event :=
  [.key .tab, .key .tab,
    .rowsLoaded 3 (.ok [rowOf "dave@example.com" 2 2, rowOf "bob@example.com" 1 2]),
    .key (.char 'j'), .key .enter, .key .tab, .rowsLoaded 4 (.ok [rowOf "example.com" 1 1])]

/-- Into the domain, and from its labels back to the recipients. -/
def amongRecipients : List Event :=
  amongDomains ++ [.key .enter, .key .tab, .key .backTab, .key .backTab,
    .rowsLoaded 7 (.ok [rowOf "bob@example.com" 1 2, rowOf "dave@example.com" 1 2])]

theorem drill_narrows_into_a_domain :
    let b := (session {} amongDomains).1
    b.Reachable ∧ ∀ m : Message, m.passes (b.press .enter).1.view.filter = true →
      m.passes b.view.filter = true := by
  intro b
  have hfree : b.Free := ⟨by decide +kernel, by decide +kernel, by decide +kernel, by decide +kernel⟩
  obtain ⟨-, -, hiff⟩ := drill_narrows_iff hfree (by decide +kernel)
    (show b.view.row? = some (rowOf "example.com" 1 1) by decide +kernel)
  exact ⟨⟨{}, _, rfl⟩, (hiff twoLetters b.groupOptions (by decide +kernel)).2
    (.inl (by decide +kernel))⟩

/-- The recipient takes the place of the one before, and the list has a message that was not to
him. -/
theorem second_recipient_widens :
    ∃ (a : Archive) (b : Browser) (m : Message), b.Reachable ∧ b.Free ∧
      b.view.level = .subgroups ∧ b.loading = false ∧
      b.view.data.rows = grouped b.view.dimension b.groupOptions (a.selected b.view.filter) ∧
      m ∈ a.messages ∧ m.passes (b.press .enter).1.view.filter = true ∧
      m.passes b.view.filter = false := by
  let b := (session {} (amongRecipients ++ [.key (.char 'j')])).1
  refine ⟨twoLetters, b, toDave, ⟨{}, _, rfl⟩, ⟨by decide +kernel, by decide +kernel,
    by decide +kernel, by decide +kernel⟩, by decide +kernel, by decide +kernel, ?_,
    by decide +kernel, by decide +kernel, by decide +kernel⟩
  rw [grouped_eq_arranged]
  unfold arranged
  rw [List.mergeSort_of_pairwise (by decide +kernel)]
  decide +kernel

end Browser
end MailBrowser
