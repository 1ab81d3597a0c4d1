import MailBrowser.Proofs.Archive.Grouping
import MailBrowser.Proofs.Archive.Lookups
import MailBrowser.Proofs.Calendar.Periods

/-!
# Rows and the lists behind them

The list of a row is that of the filter with the key of the row.  Rows have their keys letter for
letter, filters compare keys up to the case of ASCII letters.

* `Dimension.caseless`       the dimensions whose keys have no capitals, where this is the same;
* `Archive.alike`            the messages of a filter with a key, up to the case of ASCII letters;
* `Archive.selected_apply`   the messages of a filter with one more constraint are these;
* `Archive.list_of_row`      so is the list of a row, and when it is what the row counts.
-/

namespace MailBrowser
open Text

/-! ## keys without capitals -/

/-- the dimensions whose keys are in lower case, or have no letters -/
def Dimension.caseless : Dimension → Bool
  | .senders | .recipients | .domains | .time => true
  | .senderNames | .recipientNames | .labels => false

namespace Message

theorem mem_orEmptyKey {s : OrdSet String} {k : String} (h : k ∈ orEmptyKey s) : k ∈ s ∨ k = "" := by
  unfold orEmptyKey at h
  split at h
  · exact .inr (List.mem_singleton.1 h)
  · exact .inl h

theorem mem_distinct {keys : List String} {k : String} (h : k ∈ distinct keys) :
    k ∈ keys ∨ k = "" :=
  (mem_orEmptyKey h).imp_left fun hs => List.mem_of_mem_filter (OrdSet.mem_ofList.1 hs)

theorem noCapitals_of_mem_keysOf (m : Message) {d : Dimension} (hd : d.caseless = true)
    {g : Granularity} {k : String} (h : k ∈ m.keysOf d g) : NoCapitals k := by
  cases d with
  | senders =>
    rw [List.mem_singleton.1 h]
    exact noCapitals_lower _
  | recipients =>
    rcases mem_distinct h with h | rfl
    · obtain ⟨a, -, rfl⟩ := List.mem_map.1 h
      exact noCapitals_lower _
    · exact noCapitals_empty
  | domains =>
    unfold keysOf at h
    dsimp only at h
    split at h
    · rw [List.mem_singleton.1 h]
      exact noCapitals_empty
    · rw [List.mem_singleton.1 h]
      exact noCapitals_lower _
  | time =>
    rw [List.mem_singleton.1 h]
    exact g.noCapitals_period m.sentAt
  | senderNames | recipientNames | labels => cases hd

end Message

/-! ## the messages behind a row -/

namespace Archive

variable (a : Archive) (f : Filter) (d : Dimension) (g : Granularity) (key : String)

/-- the messages of a filter that have a key, up to the case of ASCII letters -/
def alike : List Message := (a.selected f).filter fun m => m.hasKey d g key

variable {a f d g key}

theorem selected_apply (hd : f.holds d = false) :
    a.selected (f.apply d key g) = a.alike f d g key := by
  unfold alike selected
  rw [Filter.account_apply, Filter.attachmentsOnly_apply, List.filter_filter]
  refine List.filter_congr fun m _ => ?_
  rw [Filter.passes_apply_of_not_holds hd, Bool.and_comm]

theorem list_perm (a : Archive) (f : Filter) :
    (a.list f {}).Perm ((a.selected f).map Message.summary) := a.sorted_perm f .date .desc

theorem under_eq_filter_alike (a : Archive) (f : Filter) (d : Dimension) (g : Granularity)
    (key : String) :
    under d g key (a.selected f) = (a.alike f d g key).filter fun m => key ∈ m.keysOf d g := by
  unfold under alike
  rw [List.filter_filter]
  refine List.filter_congr fun m _ => Bool.eq_iff_iff.2 ?_
  rw [Bool.and_eq_true, decide_eq_true_iff]
  exact ⟨fun h => ⟨h, m.hasKey_of_mem h⟩, And.left⟩

/-- What has the key counts, and all that has it up to case is as much only if it has it. -/
theorem length_alike_eq_iff :
    (a.alike f d g key).length = (under d g key (a.selected f)).length ↔
      ∀ m ∈ a.alike f d g key, key ∈ m.keysOf d g := by
  rw [under_eq_filter_alike, eq_comm, List.length_filter_eq_length_iff]
  simp only [decide_eq_true_iff]

theorem alike_eq_under (h : ∀ m ∈ a.alike f d g key, key ∈ m.keysOf d g) :
    a.alike f d g key = under d g key (a.selected f) := by
  rw [under_eq_filter_alike, List.filter_eq_self.2 fun m hm => decide_eq_true (h m hm)]

end Archive

/-! ## rows without a search -/

section
variable {d : Dimension} {o : GroupOptions} {ms : List Message}

theorem allRows_of_groups (ho : o.search = none) (hl : o.limit = 0) {rows : List Row}
    (h : Groups d o ms rows) : AllRows d o ms rows := by
  have hall := h.all hl
  rwa [ho, sought_none] at hall

/-- A message with a key that equals that of a row up to case has the key of the row, if the keys
have no capitals, or if no other row has such a key. -/
theorem AllRows.mem_keysOf_of_hasKey {rows : List Row} (h : AllRows d o ms rows) {r : Row}
    (hr : r ∈ rows)
    (hc : d.caseless = true ∨ ∀ r' ∈ rows, sameAscii r'.key r.key = true → r'.key = r.key)
    {m : Message} (hm : m ∈ ms) (hk : m.hasKey d o.granularity r.key = true) :
    r.key ∈ m.keysOf d o.granularity := by
  obtain ⟨k, hkm, hs⟩ := List.any_eq_true.1 hk
  suffices e : k = r.key from e ▸ hkm
  rcases hc with hc | hc
  · obtain ⟨n, -, hn⟩ := (h.keys r.key).1 (List.mem_map_of_mem hr)
    exact (sameAscii_iff_eq (m.noCapitals_of_mem_keysOf hc hkm)
      (n.noCapitals_of_mem_keysOf hc hn)).1 hs
  · obtain ⟨r', hr', e⟩ := List.mem_map.1 ((h.keys k).2 ⟨m, hm, hkm⟩)
    rw [← e] at hs ⊢
    exact hc r' hr' hs

end

namespace Archive

/-- **The list of a row.**  It has the messages of the filter whose key is that of the row up to the
case of ASCII letters.  They are as many as the row counts exactly if all of them have the key
itself, and then they are those counted and make up its size, as a sum of figures and plainly if the
plain sum is a figure.  So it is where keys have no capitals, and where no other row has a key that
differs in case alone. -/
theorem list_of_row (a : Archive) (f : Filter) (d : Dimension) (o : GroupOptions)
    (hd : f.holds d = false) (ho : o.search = none) (hl : o.limit = 0) {rows : List Row}
    (hrows : a.engine.groupWithin f d o = .ok rows) {r : Row} (hr : r ∈ rows) :
    ∃ listed, a.engine.list (f.apply d r.key o.granularity) {} = .ok listed ∧
      listed.Perm ((a.alike f d o.granularity r.key).map Message.summary) ∧
      ((listed.length : Int) = r.count ↔
        ∀ m ∈ a.alike f d o.granularity r.key, r.key ∈ m.keysOf d o.granularity) ∧
      ((∀ m ∈ a.alike f d o.granularity r.key, r.key ∈ m.keysOf d o.granularity) →
        listed.Perm ((under d o.granularity r.key (a.selected f)).map Message.summary) ∧
        Figure.wrap (listed.map Summary.size).sum = r.size ∧
        (Figure.Fits (listed.map Summary.size).sum → (listed.map Summary.size).sum = r.size)) ∧
      ((d.caseless = true ∨ ∀ r' ∈ rows, sameAscii r'.key r.key = true → r'.key = r.key) →
        ∀ m ∈ a.alike f d o.granularity r.key, r.key ∈ m.keysOf d o.granularity) := by
  have hall : AllRows d o (a.selected f) rows :=
    allRows_of_groups ho hl (groups_iff.2 (Except.ok.inj hrows).symm)
  have hcount : r.count = (under d o.granularity r.key (a.selected f)).length :=
    congrArg Row.count (hall.sums r hr)
  have hsize : r.size =
      Figure.wrap ((under d o.granularity r.key (a.selected f)).map Message.size).sum :=
    congrArg Row.size (hall.sums r hr)
  have hp : (a.list (f.apply d r.key o.granularity) {}).Perm
      ((a.alike f d o.granularity r.key).map Message.summary) := by
    rw [← selected_apply hd]
    exact a.list_perm _
  refine ⟨_, rfl, hp, ?_, fun h => ?_, fun hc m hm => ?_⟩
  · rw [hp.length_eq, List.length_map, hcount, Int.natCast_inj]
    exact length_alike_eq_iff
  · rw [alike_eq_under h] at hp
    have hsum : Figure.wrap ((a.list (f.apply d r.key o.granularity) {}).map Summary.size).sum =
        r.size := by
      rw [(hp.map Summary.size).sum_eq, List.map_map, hsize]
      rfl
    exact ⟨hp, hsum, fun hfit => (Figure.wrap_of_fits hfit).symm.trans hsum⟩
  · obtain ⟨hs, hk⟩ := List.mem_filter.1 hm
    exact hall.mem_keysOf_of_hasKey hr hc hs hk

/-! ### two spellings of a name -/

def fromBob : Message where
  id := 1
  account := 1
  providerId := "m1"
  subject := "one"
  sender := { email := "bob@example.com", name := "Bob" }
  sentAt := .epoch
  size := 10

def fromLoudBob : Message where
  id := 2
  account := 1
  providerId := "m2"
  subject := "two"
  sender := { email := "bob@example.com", name := "BOB" }
  sentAt := .epoch
  size := 20

def oneBob : Archive where
  accounts := [{ id := 1, identifier := "me@example.com" }]
  messages := [fromBob, fromLoudBob]

/-- The sender has one row, and its list has both messages. -/
theorem list_of_row_of_a_sender :
    ∃ listed, oneBob.engine.list (Filter.apply {} .senders "bob@example.com" .month) {} =
        .ok listed ∧
      listed.Perm ([fromBob, fromLoudBob].map Message.summary) ∧
      (listed.map Summary.size).sum = 30 := by
  let r : Row := { key := "bob@example.com", count := 2, size := 30, unique := 1 }
  have hr : r ∈ grouped .senders { limit := 0 } (oneBob.selected {}) := by decide +kernel
  obtain ⟨listed, hlist, -, -, hcounted, hall⟩ :=
    list_of_row oneBob {} .senders { limit := 0 } (by decide) rfl rfl rfl hr
  obtain ⟨hp, -, hs⟩ := hcounted (hall (.inl rfl))
  have hu : under .senders .month "bob@example.com" (oneBob.selected {}) =
      [fromBob, fromLoudBob] := by decide +kernel
  rw [hu] at hp
  refine ⟨listed, hlist, hp, hs ?_⟩
  rw [(hp.map Summary.size).sum_eq]
  decide

/-- The row of a name counts one message, and its list has two. -/
theorem list_longer_than_its_row :
    ¬ ∀ (a : Archive) (f : Filter) (d : Dimension) (o : GroupOptions), f.holds d = false →
      o.search = none → o.limit = 0 → ∀ rows, a.engine.groupWithin f d o = .ok rows →
      ∀ r ∈ rows, ∀ listed, a.engine.list (f.apply d r.key o.granularity) {} = .ok listed →
      (listed.length : Int) = r.count := by
  intro h
  have hall := allRows_of_groups rfl rfl
    (groups_iff.2 (rfl : grouped .senderNames { limit := 0 } (oneBob.selected {}) = _))
  have hbob : "Bob" ∈ (grouped .senderNames { limit := 0 } (oneBob.selected {})).map Row.key :=
    (hall.keys "Bob").2 ⟨fromBob, by decide +kernel, by decide +kernel⟩
  obtain ⟨r, hr, hk⟩ := List.mem_map.1 hbob
  have hl := h oneBob {} .senderNames { limit := 0 } (by decide) rfl rfl _ rfl r hr _ rfl
  rw [(oneBob.list_perm _).length_eq, congrArg Row.count (hall.sums r hr), hk] at hl
  revert hl
  decide +kernel

end Archive
end MailBrowser
