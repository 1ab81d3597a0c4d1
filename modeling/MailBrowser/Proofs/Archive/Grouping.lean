import Mathlib.Algebra.BigOperators.Group.List.Basic
import Mathlib.Algebra.Ring.Int.Defs
import Mathlib.Data.List.Sort
import Mathlib.Data.List.Sublists
import Mathlib.Data.String.Basic
import MailBrowser.Archive.Questions
import MailBrowser.Proofs.Archive.Tally
import MailBrowser.Proofs.Group.Figures
import MailBrowser.Proofs.Group.Sorting
import MailBrowser.Proofs.Mail.Components

/-!
# Grouping as a group-by

What the rows of a grouping are, said without the tally, the sort and the cut that make them, and
that nothing else fits the description.

* `Row.Precedes`        the order of rows, spelled out;
* `Row.sums`            the row of a key, as sums over the messages that have it;
* `Message.Sought`      the messages that a search asks for;
* `AllRows`, `Groups`   the rows of some messages, all of them and those up to the limit;
* `groups_iff`          `grouped` gives these rows, and no others fit;
* `Roomy`               sizes that can be added up without wrapping around;
* `arranged`            what is done with the tally, whose order does not matter;
* `Archive.grouping_spec`   the groupings of an archive: their rows, that no order of the messages
  matters, and that the columns of rows with one key for each message add up to the totals.
-/

namespace MailBrowser

/-! ## the order of rows -/

namespace Row

/-- ahead by a figure, and by the smaller key where the figures are equal -/
def Ahead {α : Type} [LT α] (dir : Direction) (figure : Row → α) (a b : Row) : Prop :=
  dir.Before (figure a) (figure b) ∨ figure a = figure b ∧ a.key < b.key

/-- the order of the rows of a grouping -/
def Precedes (field : RowField) (dir : Direction) (a b : Row) : Prop :=
  match field with
  | .count => Ahead dir Row.count a b
  | .size => Ahead dir Row.size a b
  | .attachmentSize => Ahead dir Row.attachmentSize a b
  | .name => Ahead dir Row.key a b

section
variable {α : Type} [LinearOrder α] (dir : Direction) (figure : Row → α)

theorem Ahead.asymm {a b : Row} (h : Ahead dir figure a b) : ¬ Ahead dir figure b a := by
  unfold Ahead at *
  cases dir with
  | asc =>
    rintro (h' | ⟨e', h'⟩) <;> rcases h with h | ⟨e, h⟩
    · exact lt_asymm h h'
    · exact h'.ne e.symm
    · exact h.ne e'.symm
    · exact lt_asymm h h'
  | desc =>
    rintro (h' | ⟨e', h'⟩) <;> rcases h with h | ⟨e, h⟩
    · exact lt_asymm h h'
    · exact h'.ne e
    · exact h.ne e'
    · exact lt_asymm h h'

theorem ahead_of_ranked {a b : Row} (hk : a.key ≠ b.key)
    (h : dir.ranked figure Row.key a b = true) : Ahead dir figure a b := by
  rcases (dir.ranked_iff figure Row.key a b).1 h with h | ⟨hf, h⟩
  · exact .inl h
  · exact .inr ⟨hf, lt_of_le_of_ne h hk⟩

end

variable (field : RowField) (dir : Direction)

theorem Precedes.asymm {a b : Row} (h : Precedes field dir a b) : ¬ Precedes field dir b a := by
  cases field <;> exact Ahead.asymm dir _ h

theorem precedes_of_inOrder {a b : Row} (hk : a.key ≠ b.key) (h : inOrder field dir a b = true) :
    Precedes field dir a b := by
  cases field <;> exact ahead_of_ranked dir _ hk h

theorem inOrder_trans {a b c : Row} (hab : inOrder field dir a b = true)
    (hbc : inOrder field dir b c = true) : inOrder field dir a c = true := by
  cases field <;> exact dir.ranked_trans _ Row.key hab hbc

theorem inOrder_total (a b : Row) : (inOrder field dir a b || inOrder field dir b a) = true := by
  cases field <;> exact dir.ranked_total _ Row.key a b

/-- A sort of rows with different keys is strict. -/
theorem pairwise_precedes_mergeSort {rows : List Row} (h : (rows.map Row.key).Nodup) :
    (rows.mergeSort (inOrder field dir)).Pairwise (Precedes field dir) := by
  have hs : (rows.mergeSort (inOrder field dir)).Pairwise fun a b => inOrder field dir a b = true := by
    refine List.pairwise_mergeSort (fun a b c hab hbc => ?_) (fun a b => ?_) rows
    · exact inOrder_trans field dir hab hbc
    · exact inOrder_total field dir a b
  have hk : (rows.mergeSort (inOrder field dir)).Pairwise fun a b => a.key ≠ b.key :=
    List.pairwise_map.1 (((List.mergeSort_perm rows _).map Row.key).nodup_iff.2 h)
  refine (hs.and hk).imp fun {a b} hab => ?_
  exact precedes_of_inOrder field dir hab.2 hab.1

/-! ## the sums of a row -/

/-- the row of a key, as sums over the messages that have it, those of sizes as figures -/
def sums (key : String) (ms : List Message) (unique : Int) : Row where
  key := key
  count := ms.length
  size := Figure.wrap (ms.map Message.size).sum
  attachments := (ms.map fun m => (m.attachments.length : Int)).sum
  attachmentSize := Figure.wrap (ms.map Message.attachmentSize).sum
  unique := unique

theorem foldl_count1 (r : Row) (ms : List Message) :
    ms.foldl count1 r =
      { r with
        count := r.count + ms.length
        size := (ms.map Message.size).foldl Figure.add r.size
        attachments := r.attachments + (ms.map fun m => (m.attachments.length : Int)).sum
        attachmentSize :=
          (ms.map Message.attachmentSize).foldl Figure.add r.attachmentSize } := by
  induction ms generalizing r with
  | nil => simp
  | cons m ms ih =>
    rw [List.foldl_cons, ih]
    simp only [count1, List.length_cons, List.map_cons, List.sum_cons, List.foldl_cons, mk.injEq,
      true_and, and_true]
    constructor <;> omega

theorem total_eq_sums (key : String) (ms : List Message) : total key ms = sums key ms 0 := by
  unfold total sums
  rw [foldl_count1, ← Figure.sum_eq, ← Figure.sum_eq]
  simp only [Int.zero_add, Figure.sum]

theorem sums_perm (key : String) {ms ms' : List Message} (h : ms.Perm ms') (unique : Int) :
    sums key ms unique = sums key ms' unique := by
  unfold sums
  rw [h.length_eq, (h.map _).sum_eq, (h.map _).sum_eq, (h.map _).sum_eq]

end Row

/-! ## the messages that a search asks for -/

/-- A search that is left out, or asks for nothing, lets every message through. -/
def Message.Sought (search : Option String) (m : Message) : Prop :=
  ∀ line ∈ search, SearchQuery.parse line ≠ {} → m.fits (SearchQuery.parse line) .headers = true

instance (search : Option String) : DecidablePred (Message.Sought search) := fun m =>
  inferInstanceAs (Decidable (∀ line ∈ search, SearchQuery.parse line ≠ {} →
    m.fits (SearchQuery.parse line) .headers = true))

def sought (search : Option String) (ms : List Message) : List Message :=
  ms.filter fun m => m.Sought search

theorem found_eq_sought (search : Option String) (ms : List Message) :
    found (activeQuery search) ms = sought search ms := by
  cases search with
  | none =>
    refine (List.filter_eq_self.2 fun m _ => decide_eq_true ?_).symm
    rintro line ⟨⟩
  | some line =>
    by_cases hq : SearchQuery.parse line = {}
    · have hnone : activeQuery (some line) = none := by
        simp [activeQuery, SearchQuery.isEmpty, hq]
      rw [hnone]
      refine (List.filter_eq_self.2 fun m _ => decide_eq_true ?_).symm
      rintro line' ⟨⟩ hq'
      exact absurd hq hq'
    · have hsome : activeQuery (some line) = some (SearchQuery.parse line) := by
        simp [activeQuery, SearchQuery.isEmpty, hq]
      rw [hsome]
      refine List.filter_congr fun m _ => Bool.eq_iff_iff.2 ?_
      rw [decide_eq_true_iff]
      refine ⟨fun hm line' hl _ => ?_, fun hm => hm line rfl hq⟩
      obtain rfl := Option.some.inj hl
      exact hm

theorem sought_none (ms : List Message) : sought none ms = ms := (found_eq_sought none ms).symm

theorem sought_perm {ms ms' : List Message} (h : ms.Perm ms') (search : Option String) :
    (sought search ms).Perm (sought search ms') := h.filter _

/-! ## the rows of some messages -/

section
variable (d : Dimension) (o : GroupOptions) (ms : List Message)

/-- All rows of some messages: one for each key that one of them has, in order, each with the sums
over the messages that have its key and with the number of rows. -/
structure AllRows (rows : List Row) : Prop where
  keys : ∀ key, key ∈ rows.map Row.key ↔ ∃ m ∈ ms, key ∈ m.keysOf d o.granularity
  distinct : (rows.map Row.key).Nodup
  ordered : rows.Pairwise (Row.Precedes o.sortField o.direction)
  sums : ∀ r ∈ rows, r = Row.sums r.key (under d o.granularity r.key ms) rows.length

/-- The rows of the messages that the search asks for, the first of them if there is a limit. -/
def Groups (rows : List Row) : Prop :=
  ∃ all, AllRows d o (sought o.search ms) all ∧
    rows = if o.limit = 0 then all else all.take o.limit

end

section
variable {d : Dimension} {o : GroupOptions} {ms : List Message}

theorem AllRows.mem {all all' : List Row} (h : AllRows d o ms all) (h' : AllRows d o ms all')
    {r : Row} (hr : r ∈ all) : r ∈ all' := by
  have hk : r.key ∈ all'.map Row.key :=
    (h'.keys r.key).2 ((h.keys r.key).1 (List.mem_map_of_mem hr))
  obtain ⟨r', hr', e⟩ := List.mem_map.1 hk
  have hl : all.length = all'.length := by
    have hp := (List.perm_ext_iff_of_nodup h.distinct h'.distinct).2 fun key =>
      (h.keys key).trans (h'.keys key).symm
    simpa using hp.length_eq
  have : r = r' := by rw [h.sums r hr, h'.sums r' hr', e, hl]
  exact this ▸ hr'

/-- No other list of rows fits. -/
theorem AllRows.unique {all all' : List Row} (h : AllRows d o ms all)
    (h' : AllRows d o ms all') : all = all' :=
  have : Std.Asymm (Row.Precedes o.sortField o.direction) := ⟨fun _ _ => Row.Precedes.asymm _ _⟩
  h.ordered.eq_of_mem_iff h'.ordered fun _ => ⟨h.mem h', h'.mem h⟩

/-- The order of the messages does not matter. -/
theorem AllRows.perm {ms' : List Message} {all : List Row} (h : AllRows d o ms all)
    (hp : ms.Perm ms') : AllRows d o ms' all where
  keys key := by simp only [h.keys, hp.mem_iff]
  distinct := h.distinct
  ordered := h.ordered
  sums r hr := by
    have hu : (under d o.granularity r.key ms).Perm (under d o.granularity r.key ms') :=
      hp.filter _
    rw [← Row.sums_perm r.key hu]
    exact h.sums r hr

end

/-! ## the tally, arranged -/

/-- rows sorted, numbered and cut -/
def arranged (o : GroupOptions) (rows : List Row) : List Row :=
  let rows := rows.mergeSort (Row.inOrder o.sortField o.direction)
  page (rows.map fun r => { r with unique := rows.length }) o.limit 0

theorem grouped_eq_arranged (d : Dimension) (o : GroupOptions) (ms : List Message) :
    grouped d o ms =
      arranged o (tally d o.granularity (sought o.search ms)) := by
  rw [← found_eq_sought]
  rfl

section
variable (d : Dimension) (g : Granularity)

theorem mem_keys_countUnderAll (m : Message) (keys : List String) (rows : List Row)
    (key : String) :
    key ∈ (countUnderAll m keys rows).map Row.key ↔ key ∈ keys ∨ key ∈ rows.map Row.key := by
  induction keys generalizing rows with
  | nil => simp [countUnderAll]
  | cons k keys ih =>
    show key ∈ (countUnderAll m keys (countUnder m k rows)).map Row.key ↔ _
    rw [ih, keys_countUnder, List.mem_cons]
    split
    · rename_i hk
      refine ⟨fun h => h.elim (.inl ∘ .inr) .inr, ?_⟩
      rintro ((rfl | h) | h)
      · exact .inr hk
      · exact .inl h
      · exact .inr h
    · rw [List.mem_append, List.mem_singleton]
      tauto

theorem mem_keys_tally (ms : List Message) (key : String) :
    key ∈ (tally d g ms).map Row.key ↔ ∃ m ∈ ms, key ∈ m.keysOf d g := by
  rw [tally_eq]
  suffices h : ∀ rows : List Row,
      key ∈ (ms.foldl (fun rows m => countUnderAll m (m.keysOf d g) rows) rows).map Row.key ↔
        (∃ m ∈ ms, key ∈ m.keysOf d g) ∨ key ∈ rows.map Row.key by
    simpa using h []
  induction ms with
  | nil => simp
  | cons m ms ih =>
    intro rows
    rw [List.foldl_cons, ih, mem_keys_countUnderAll, List.exists_mem_cons_iff, or_assoc,
      or_left_comm]

end

section
variable {d : Dimension} {o : GroupOptions} {ms : List Message}

/-- In whatever order the buckets come, sorting and numbering them gives all rows. -/
theorem allRows_of_perm_tally {buckets : List Row} (h : buckets.Perm (tally d o.granularity ms)) :
    AllRows d o ms ((buckets.mergeSort (Row.inOrder o.sortField o.direction)).map fun r =>
      { r with unique := buckets.length }) := by
  have hp : (buckets.mergeSort (Row.inOrder o.sortField o.direction)).Perm
      (tally d o.granularity ms) := (List.mergeSort_perm _ _).trans h
  have hkeys : ∀ rows : List Row,
      (rows.map fun r : Row => { r with unique := (buckets.length : Int) }).map Row.key =
        rows.map Row.key := fun rows => List.map_map
  have hnodup := keys_nodup_tally d o.granularity ms
  refine ⟨fun key => ?_, ?_, ?_, fun r hr => ?_⟩
  · rw [hkeys, (hp.map Row.key).mem_iff]
    exact mem_keys_tally d o.granularity ms key
  · rw [hkeys]
    exact (hp.map Row.key).nodup_iff.2 hnodup
  · -- The number of rows is not looked at by the order.
    refine List.pairwise_map.2 ?_
    have hs := Row.pairwise_precedes_mergeSort o.sortField o.direction
      ((h.map Row.key).nodup_iff.2 hnodup)
    refine hs.imp fun {a b} hab => ?_
    cases hf : o.sortField <;> rw [hf] at hab <;> exact hab
  · obtain ⟨s, hs, rfl⟩ := List.mem_map.1 hr
    have ht := eq_total_of_mem_tally d o.granularity (hp.mem_iff.1 hs)
    rw [Row.total_eq_sums] at ht
    rw [List.length_map, List.length_mergeSort]
    exact congrArg (fun t : Row => { t with unique := (buckets.length : Int) }) ht

theorem groups_arranged {buckets : List Row}
    (h : buckets.Perm (tally d o.granularity (sought o.search ms))) :
    Groups d o ms (arranged o buckets) := by
  refine ⟨_, allRows_of_perm_tally h, ?_⟩
  unfold arranged page
  simp only [List.length_mergeSort, List.drop_zero]

theorem Groups.unique {rows rows' : List Row} (h : Groups d o ms rows)
    (h' : Groups d o ms rows') : rows = rows' := by
  obtain ⟨all, ha, rfl⟩ := h
  obtain ⟨all', ha', rfl⟩ := h'
  rw [ha.unique ha']

/-- **A grouping gives the rows of the messages found, and nothing else fits.** -/
theorem groups_iff {rows : List Row} : Groups d o ms rows ↔ rows = grouped d o ms := by
  have hg : Groups d o ms (grouped d o ms) := by
    rw [grouped_eq_arranged]
    exact groups_arranged (List.Perm.refl _)
  exact ⟨fun h => h.unique hg, fun h => h ▸ hg⟩

theorem grouped_perm {ms' : List Message} (h : ms.Perm ms') : grouped d o ms = grouped d o ms' := by
  obtain ⟨all, ha, hr⟩ := groups_iff.2 (rfl : grouped d o ms = _)
  exact groups_iff.1 ⟨all, ha.perm (sought_perm h _), hr⟩

end

/-! ## columns -/

/-- the dimensions in which every message has exactly one key -/
def Dimension.single : Dimension → Bool
  | .senders | .senderNames | .domains | .time => true
  | .recipients | .recipientNames | .labels => false

theorem Message.length_keysOf (m : Message) {d : Dimension} (h : d.single = true)
    (g : Granularity) : (m.keysOf d g).length = 1 := by
  cases d with
  | senders => rfl
  | senderNames => rfl
  | domains =>
    unfold keysOf
    dsimp only
    split <;> rfl
  | time => rfl
  | recipients | recipientNames | labels => cases h

section
variable {d : Dimension} {g : Granularity} (value : Message → Int)

theorem sum_under_cons (m : Message) (ms : List Message) (key : String) :
    ((under d g key (m :: ms)).map value).sum =
      (if key ∈ m.keysOf d g then value m else 0) + ((under d g key ms).map value).sum := by
  unfold under
  by_cases h : key ∈ m.keysOf d g
  · rw [if_pos h, List.filter_cons_of_pos (by exact decide_eq_true h), List.map_cons, List.sum_cons]
  · rw [if_neg h, List.filter_cons_of_neg (by simpa using h), Int.zero_add]

/-- Over all the keys there are, a message counts once for each that it has. -/
theorem sum_sum_under {keys : List String} (hk : keys.Nodup) {ms : List Message}
    (hall : ∀ m ∈ ms, m.keysOf d g ⊆ keys) :
    (keys.map fun key => ((under d g key ms).map value).sum).sum =
      (ms.map fun m => (m.keysOf d g).length * value m).sum := by
  induction ms with
  | nil => simp [under]
  | cons m ms ih =>
    obtain ⟨hm, hms⟩ := List.forall_mem_cons.1 hall
    -- among the keys the message meets its own, each once
    have hown : (keys.filter fun key => key ∈ m.keysOf d g).Perm (m.keysOf d g) := by
      refine (List.perm_ext_iff_of_nodup (hk.filter _) (m.keysOf_nodup d g)).2 fun key => ?_
      rw [List.mem_filter, decide_eq_true_iff]
      exact ⟨And.right, fun h => ⟨hm h, h⟩⟩
    simp only [sum_under_cons]
    rw [List.sum_map_add, ih hms, List.sum_map_ite, List.map_cons, List.sum_cons]
    simp [hown.length_eq]

end

/-- the messages whose sizes stay figures, whichever of them are added up -/
def Roomy (ms : List Message) : Prop :=
  ∀ part : List Message, part.Sublist ms → Figure.Fits (part.map Message.size).sum ∧
    Figure.Fits (part.map Message.attachmentSize).sum

section
variable {d : Dimension} {o : GroupOptions} {ms : List Message} {rows : List Row}

theorem AllRows.column (h : AllRows d o ms rows) (hd : d.single = true) {figure : Row → Int}
    {value : Message → Int}
    (hf : ∀ r ∈ rows, figure r = ((under d o.granularity r.key ms).map value).sum) :
    (rows.map figure).sum = (ms.map value).sum := by
  have hs := sum_sum_under (d := d) (g := o.granularity) value h.distinct
    fun m hm key hk => (h.keys key).2 ⟨m, hm, hk⟩
  rw [List.map_map] at hs
  rw [List.map_congr_left hf]
  refine hs.trans (congrArg List.sum (List.map_congr_left fun m _ => ?_))
  rw [m.length_keysOf hd]
  exact Int.one_mul _

theorem AllRows.column_wrap (h : AllRows d o ms rows) (hd : d.single = true)
    {figure : Row → Int} {value : Message → Int}
    (hf : ∀ r ∈ rows, figure r = Figure.wrap ((under d o.granularity r.key ms).map value).sum) :
    Figure.wrap (rows.map figure).sum = Figure.wrap (ms.map value).sum := by
  have hw : rows.map figure =
      (rows.map fun r => ((under d o.granularity r.key ms).map value).sum).map Figure.wrap := by
    rw [List.map_map]
    exact List.map_congr_left hf
  rw [hw, Figure.wrap_sum_map_wrap, h.column hd fun _ _ => rfl]

/-- Where there is room, the sizes of a row are plain sums. -/
theorem AllRows.sizes (h : AllRows d o ms rows) (hm : Roomy ms) {r : Row} (hr : r ∈ rows) :
    r.size = ((under d o.granularity r.key ms).map Message.size).sum ∧
      r.attachmentSize = ((under d o.granularity r.key ms).map Message.attachmentSize).sum := by
  obtain ⟨hs, ha⟩ := hm (under d o.granularity r.key ms) List.filter_sublist
  exact ⟨(congrArg Row.size (h.sums r hr)).trans (Figure.wrap_of_fits hs),
    (congrArg Row.attachmentSize (h.sums r hr)).trans (Figure.wrap_of_fits ha)⟩

theorem Groups.subset (h : Groups d o ms rows) :
    ∃ all, AllRows d o (sought o.search ms) all ∧ rows ⊆ all := by
  obtain ⟨all, ha, rfl⟩ := h
  refine ⟨all, ha, ?_⟩
  split
  · exact List.Subset.refl _
  · exact (List.take_sublist _ _).subset

theorem Groups.all (h : Groups d o ms rows) (hl : o.limit = 0) :
    AllRows d o (sought o.search ms) rows := by
  obtain ⟨all, ha, rfl⟩ := h
  rwa [if_pos hl]

end

/-- the settings of the totals of the same scope and search, no dimension being searched -/
def GroupOptions.totals (o : GroupOptions) : StatsOptions where
  account := o.account
  attachmentsOnly := o.attachmentsOnly
  search := o.search
  groupBy := none

namespace Archive

theorem foldl_addMessage (s : Stats) (ms : List Message) :
    ms.foldl addMessage s =
      { s with
        messages := s.messages + ms.length
        size := (ms.map Message.size).foldl Figure.add s.size
        attachments := s.attachments + (ms.map fun m => (m.attachments.length : Int)).sum
        attachmentSize :=
          (ms.map Message.attachmentSize).foldl Figure.add s.attachmentSize } := by
  induction ms generalizing s with
  | nil => simp
  | cons m ms ih =>
    rw [List.foldl_cons, ih]
    simp only [addMessage, List.length_cons, List.map_cons, List.sum_cons, List.foldl_cons,
      Stats.mk.injEq, true_and, and_true]
    constructor <;> omega

/-- Without a dimension the totals are of the messages that a grouping looks at. -/
theorem counted_eq_sought (o : StatsOptions) (h : o.groupBy = none) (ms : List Message) :
    counted o ms = sought o.search ms := by
  rw [← found_eq_sought]
  unfold counted found
  rw [h]
  cases activeQuery o.search <;> rfl

theorem stats_totals (a : Archive) (o : GroupOptions) :
    let ms := sought o.search (a.inScope o.account o.attachmentsOnly)
    let s := a.stats o.totals
    s.messages = ms.length ∧ s.size = Figure.wrap (ms.map Message.size).sum ∧
      s.attachments = (ms.map fun m => (m.attachments.length : Int)).sum ∧
      s.attachmentSize = Figure.wrap (ms.map Message.attachmentSize).sum := by
  have hc : counted o.totals (a.inScope o.totals.account o.totals.attachmentsOnly) =
      sought o.search (a.inScope o.account o.attachmentsOnly) := counted_eq_sought o.totals rfl _
  dsimp only [stats]
  rw [hc, foldl_addMessage]
  exact ⟨Int.zero_add _, Figure.sum_eq _, Int.zero_add _, Figure.sum_eq _⟩

end Archive

/-! ## the order of the messages in a file -/

section
variable (d : Dimension) (o : GroupOptions) (ms : List Message)

theorem countUnder_unthreaded (m : Message) (key : String) (rows : List Row) :
    countUnder m.unthreaded key rows = countUnder m key rows := by
  induction rows with
  | nil => rfl
  | cons r rows ih =>
    unfold countUnder
    rw [ih]
    rfl

theorem tally_unthreaded (g : Granularity) :
    tally d g (ms.map Message.unthreaded) = tally d g ms := by
  unfold tally
  rw [List.foldl_map]
  refine congrArg (fun f => ms.foldl f []) (funext fun rows => funext fun m => ?_)
  show (m.keysOf d g).foldl (fun rows key => countUnder m.unthreaded key rows) rows = _
  refine congrArg (fun f => (m.keysOf d g).foldl f rows) (funext fun rows => funext fun key => ?_)
  exact countUnder_unthreaded m key rows

theorem sought_unthreaded (search : Option String) :
    sought search (ms.map Message.unthreaded) = (sought search ms).map Message.unthreaded :=
  List.filter_map

theorem grouped_unthreaded : grouped d o (ms.map Message.unthreaded) = grouped d o ms := by
  rw [grouped_eq_arranged, grouped_eq_arranged, sought_unthreaded, tally_unthreaded]

theorem grouped_perm_unthreaded {ms ms' : List Message}
    (h : (ms.map Message.unthreaded).Perm (ms'.map Message.unthreaded)) :
    grouped d o ms = grouped d o ms' := by
  rw [← grouped_unthreaded d o ms, ← grouped_unthreaded d o ms']
  exact grouped_perm h

end

namespace Archive

theorem messages_perm {file file' : ArchiveFile} (h : file'.messages.Perm file.messages) :
    ((ofFile file').messages.map Message.unthreaded).Perm
      ((ofFile file).messages.map Message.unthreaded) := by
  have hf : ∀ f : ArchiveFile, ((ofFile f).messages.map Message.unthreaded).Perm
      (f.messages.map Message.unthreaded) := fun f => by
    rw [← Conversation.map_unthreaded_assignBy f.messages (Conversation.names f.messages)]
    exact (List.mergeSort_perm _ _).map _
  exact (hf file').trans ((h.map _).trans (hf file).symm)

theorem inScope_unthreaded (a : Archive) (account : Option Int) (attachmentsOnly : Bool) :
    (a.inScope account attachmentsOnly).map Message.unthreaded =
      (a.messages.map Message.unthreaded).filter fun m => m.inScope account attachmentsOnly := by
  rw [List.filter_map]
  rfl

theorem selected_unthreaded (a : Archive) (f : Filter) :
    (a.selected f).map Message.unthreaded =
      ((a.inScope f.account f.attachmentsOnly).map Message.unthreaded).filter fun m =>
        m.passes f := by
  rw [List.filter_map]
  rfl

theorem group_perm {file file' : ArchiveFile} (h : file'.messages.Perm file.messages)
    (d : Dimension) (o : GroupOptions) :
    (ofFile file').engine.group d o = (ofFile file).engine.group d o := by
  refine congrArg Except.ok (grouped_perm_unthreaded d o ?_)
  rw [inScope_unthreaded, inScope_unthreaded]
  exact (messages_perm h).filter _

theorem groupWithin_perm {file file' : ArchiveFile} (h : file'.messages.Perm file.messages)
    (f : Filter) (d : Dimension) (o : GroupOptions) :
    (ofFile file').engine.groupWithin f d o = (ofFile file).engine.groupWithin f d o := by
  refine congrArg Except.ok (grouped_perm_unthreaded d o ?_)
  rw [selected_unthreaded, selected_unthreaded, inScope_unthreaded, inScope_unthreaded]
  exact ((messages_perm h).filter _).filter _

/-- The columns of rows with one key for each message add up to the totals. -/
theorem columns_eq_stats (a : Archive) {d : Dimension} (hd : d.single = true) {o : GroupOptions}
    (hl : o.limit = 0) {rows : List Row} (h : a.engine.group d o = .ok rows) :
    let s := a.stats o.totals
    (rows.map Row.count).sum = s.messages ∧ Figure.wrap (rows.map Row.size).sum = s.size ∧
      (rows.map Row.attachments).sum = s.attachments ∧
      Figure.wrap (rows.map Row.attachmentSize).sum = s.attachmentSize ∧
      (Roomy (sought o.search (a.inScope o.account o.attachmentsOnly)) →
        (rows.map Row.size).sum = s.size ∧ (rows.map Row.attachmentSize).sum = s.attachmentSize) := by
  have hall := (groups_iff.2 (Except.ok.inj h).symm).all hl
  obtain ⟨hm, hs, hn, ha⟩ := a.stats_totals o
  dsimp only
  rw [hm, hs, hn, ha]
  refine ⟨?_, ?_, ?_, ?_, fun hroom => ?_⟩
  · have hcount : (rows.map Row.count).sum =
        ((sought o.search (a.inScope o.account o.attachmentsOnly)).map fun _ => (1 : Int)).sum := by
      refine hall.column hd fun r hr => ?_
      rw [congrArg Row.count (hall.sums r hr)]
      simp [Row.sums]
    rw [hcount]
    simp
  · exact hall.column_wrap hd fun r hr => congrArg Row.size (hall.sums r hr)
  · exact hall.column hd fun r hr => congrArg Row.attachments (hall.sums r hr)
  · exact hall.column_wrap hd fun r hr => congrArg Row.attachmentSize (hall.sums r hr)
  · obtain ⟨fs, fa⟩ := hroom _ (List.Sublist.refl _)
    rw [Figure.wrap_of_fits fs, Figure.wrap_of_fits fa]
    exact ⟨hall.column hd fun r hr => (hall.sizes hroom hr).1,
      hall.column hd fun r hr => (hall.sizes hroom hr).2⟩

/-- **The groupings of an archive.**  Within a scope, and within a filter, the rows are those of the
messages that the search asks for, with plain sums of their sizes where there is room for these.
Neither the order of the messages in the file nor the order of the buckets that they are counted in
changes the rows.  Where every message has one key, all rows together make up the totals of the
scope. -/
theorem grouping_spec (file : ArchiveFile) (d : Dimension) (o : GroupOptions) :
    let a := ofFile file
    (∃ rows, a.engine.group d o = .ok rows ∧
      Groups d o (a.inScope o.account o.attachmentsOnly) rows) ∧
    (∀ f, ∃ rows, a.engine.groupWithin f d o = .ok rows ∧ Groups d o (a.selected f) rows) ∧
    (∀ ms rows, Groups d o ms rows → Roomy (sought o.search ms) → ∀ r ∈ rows,
      let own := under d o.granularity r.key (sought o.search ms)
      r.size = (own.map Message.size).sum ∧
        r.attachmentSize = (own.map Message.attachmentSize).sum) ∧
    (∀ file' : ArchiveFile, file'.messages.Perm file.messages →
      (ofFile file').engine.group d o = a.engine.group d o ∧
      ∀ f, (ofFile file').engine.groupWithin f d o = a.engine.groupWithin f d o) ∧
    (∀ ms (buckets : List Row), buckets.Perm (tally d o.granularity (sought o.search ms)) →
      arranged o buckets = grouped d o ms) ∧
    (d.single = true → o.limit = 0 → ∀ rows, a.engine.group d o = .ok rows →
      let s := a.stats o.totals
      (rows.map Row.count).sum = s.messages ∧ Figure.wrap (rows.map Row.size).sum = s.size ∧
        (rows.map Row.attachments).sum = s.attachments ∧
        Figure.wrap (rows.map Row.attachmentSize).sum = s.attachmentSize ∧
        (Roomy (sought o.search (a.inScope o.account o.attachmentsOnly)) →
          (rows.map Row.size).sum = s.size ∧
            (rows.map Row.attachmentSize).sum = s.attachmentSize)) := by
  refine ⟨⟨_, rfl, groups_iff.2 rfl⟩, fun f => ⟨_, rfl, groups_iff.2 rfl⟩,
    fun ms rows h hroom r hr => ?_, fun file' h => ?_, fun ms buckets h => ?_,
    fun hd hl rows h => ?_⟩
  · obtain ⟨all, ha, hsub⟩ := h.subset
    exact ha.sizes hroom (hsub hr)
  · exact ⟨group_perm h d o, fun f => groupWithin_perm h f d o⟩
  · exact groups_iff.1 (groups_arranged h)
  · exact columns_eq_stats _ hd hl h

/-- two messages of one sender -/
def letters : ArchiveFile where
  messages := [
    { id := 1, account := 1, providerId := "m1", subject := "one", sentAt := .epoch, size := 10
      sender := { email := "bob@example.com", name := "Bob" } },
    { id := 2, account := 1, providerId := "m2", subject := "two", sentAt := .epoch, size := 20
      sender := { email := "bob@example.com", name := "BOB" } }]

theorem inScope_letters :
    (ofFile letters).inScope none false = Conversation.assign letters.messages := by
  have hsorted : (Conversation.assign letters.messages).Pairwise
      fun m m' => m.displayedBefore m' = true := by decide +kernel
  have hms : (ofFile letters).messages = Conversation.assign letters.messages :=
    List.mergeSort_of_pairwise hsorted
  unfold inScope
  rw [hms]
  exact List.filter_eq_self.2 (by decide +kernel)

/-- Their names have two rows, which make up the size of both. -/
theorem grouping_spec_of_names :
    Roomy (sought none ((ofFile letters).inScope none false)) ∧
    ∃ rows, (ofFile letters).engine.group .senderNames { limit := 0 } = .ok rows ∧
      "Bob" ∈ rows.map Row.key ∧ "BOB" ∈ rows.map Row.key ∧ (rows.map Row.size).sum = 30 := by
  obtain ⟨⟨rows, h, hg⟩, -, -, -, -, hcolumns⟩ :=
    grouping_spec letters .senderNames { limit := 0 }
  have hroom : Roomy (sought none ((ofFile letters).inScope none false)) := by
    have hparts : ∀ part ∈ (sought none (Conversation.assign letters.messages)).sublists,
        Figure.Fits (part.map Message.size).sum ∧
          Figure.Fits (part.map Message.attachmentSize).sum := by
      decide +kernel
    rw [inScope_letters]
    exact fun part hp => hparts part (List.mem_sublists.2 hp)
  have hkeys := (hg.all rfl).keys
  dsimp only at hkeys
  rw [inScope_letters] at hkeys
  obtain ⟨-, -, -, -, hplain⟩ := hcolumns rfl rfl rows h
  have hsize : ((ofFile letters).stats ({ limit := 0 } : GroupOptions).totals).size = 30 := by
    rw [(stats_totals _ _).2.1]
    dsimp only
    rw [inScope_letters]
    decide +kernel
  refine ⟨hroom, rows, h, (hkeys "Bob").2 ?_, (hkeys "BOB").2 ?_, (hplain hroom).1.trans hsize⟩
  · decide +kernel
  · decide +kernel

end Archive
end MailBrowser
