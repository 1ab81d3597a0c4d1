import Mathlib.Data.List.Nodup
import MailBrowser.Proofs.Archive.Filters

/-!
# What rows count

A row tells the sums of the messages that have its key: no message is left out, and none is
counted twice.

* `Message.keysOf_nodup`    a message has each of its keys once;
* `Row.total`               the row of some messages under a key;
* `rowFor`                  the row of a key among some rows, empty if there is none;
* `rowFor_tally`            the row of every key is the total of the messages that have it;
* `eq_total_of_mem_grouped`   so is every row of a grouping.
-/

namespace MailBrowser

/-! ## keys -/

theorem OrdSet.items_nodup (s : OrdSet String) : s.items.Nodup :=
  s.sorted.imp fun h => Std.ne_of_lt h

namespace Message

theorem orEmptyKey_nodup (s : OrdSet String) : (orEmptyKey s).Nodup := by
  unfold orEmptyKey
  split
  · exact List.nodup_singleton _
  · exact s.items_nodup

theorem keysOf_nodup (m : Message) (d : Dimension) (g : Granularity) : (m.keysOf d g).Nodup := by
  cases d with
  | senders => exact List.nodup_singleton _
  | senderNames => exact List.nodup_singleton _
  | recipients => exact orEmptyKey_nodup _
  | recipientNames => exact orEmptyKey_nodup _
  | domains =>
    unfold keysOf
    dsimp only
    split <;> exact List.nodup_singleton _
  | labels => exact orEmptyKey_nodup _
  | time => exact List.nodup_singleton _

end Message

/-! ## rows -/

/-- the row of some messages under a key -/
def Row.total (key : String) (ms : List Message) : Row := ms.foldl Row.count1 { key }

/-- the row of a key -/
def rowFor (rows : List Row) (key : String) : Row :=
  (rows.find? fun r => r.key = key).getD { key }

theorem Row.key_count1 (r : Row) (m : Message) : (r.count1 m).key = r.key := rfl

theorem rowFor_cons (r : Row) (rows : List Row) (key : String) :
    rowFor (r :: rows) key = if r.key = key then r else rowFor rows key := by
  unfold rowFor
  rw [List.find?_cons]
  by_cases h : r.key = key
  · rw [if_pos h, decide_eq_true h]
    rfl
  · rw [if_neg h, decide_eq_false h]

theorem rowFor_countUnder (m : Message) (key : String) (rows : List Row) (other : String) :
    rowFor (countUnder m key rows) other =
      if key = other then (rowFor rows other).count1 m else rowFor rows other := by
  induction rows with
  | nil =>
    show rowFor [({ key } : Row).count1 m] other = _
    rw [rowFor_cons]
    by_cases h : key = other
    · subst h
      rw [if_pos rfl]
      exact if_pos rfl
    · rw [if_neg h]
      exact if_neg h
  | cons r rows ih =>
    unfold countUnder
    by_cases hr : r.key = key
    · rw [if_pos hr, rowFor_cons, rowFor_cons, Row.key_count1, hr]
      by_cases h : key = other
      · rw [if_pos h, if_pos h, if_pos h]
      · rw [if_neg h, if_neg h, if_neg h]
    · rw [if_neg hr, rowFor_cons, rowFor_cons, ih]
      by_cases h : key = other
      · subst h
        rw [if_neg hr, if_pos rfl, if_pos rfl, if_neg hr]
      · rw [if_neg h, if_neg h]

/-! ### each key once -/

theorem keys_countUnder (m : Message) (key : String) (rows : List Row) :
    (countUnder m key rows).map Row.key =
      if key ∈ rows.map Row.key then rows.map Row.key else rows.map Row.key ++ [key] := by
  induction rows with
  | nil => rfl
  | cons r rows ih =>
    unfold countUnder
    by_cases hr : r.key = key
    · rw [if_pos hr, if_pos (by rw [← hr]; exact List.mem_cons_self)]
      rfl
    · rw [if_neg hr, List.map_cons, List.map_cons, ih]
      by_cases h : key ∈ rows.map Row.key
      · rw [if_pos h, if_pos (List.mem_cons_of_mem _ h)]
      · rw [if_neg h, if_neg (List.not_mem_cons_of_ne_of_not_mem (fun e => hr e.symm) h)]
        rfl

theorem keys_nodup_countUnder (m : Message) (key : String) {rows : List Row}
    (h : (rows.map Row.key).Nodup) : ((countUnder m key rows).map Row.key).Nodup := by
  rw [keys_countUnder]
  split
  · exact h
  · rename_i hk
    exact List.nodup_append.2 ⟨h, List.nodup_singleton _, fun a ha b hb => by
      rw [List.mem_singleton.1 hb]
      exact fun e => hk (e ▸ ha)⟩

theorem rowFor_of_mem {rows : List Row} (h : (rows.map Row.key).Nodup) {r : Row} (hr : r ∈ rows) :
    rowFor rows r.key = r := by
  induction rows with
  | nil => cases hr
  | cons s rows ih =>
    rw [List.map_cons, List.nodup_cons] at h
    rw [rowFor_cons]
    rcases List.mem_cons.1 hr with rfl | hr
    · exact if_pos rfl
    · rw [if_neg (fun e => h.1 (by rw [e]; exact List.mem_map_of_mem hr))]
      exact ih h.2 hr

/-! ## tallies -/

/-- the rows with a message counted under each of its keys -/
def countUnderAll (m : Message) (keys : List String) (rows : List Row) : List Row :=
  keys.foldl (fun rows key => countUnder m key rows) rows

theorem keys_nodup_countUnderAll (m : Message) (keys : List String) {rows : List Row}
    (h : (rows.map Row.key).Nodup) : ((countUnderAll m keys rows).map Row.key).Nodup := by
  induction keys generalizing rows with
  | nil => exact h
  | cons key keys ih => exact ih (keys_nodup_countUnder m key h)

theorem rowFor_countUnderAll (m : Message) {keys : List String} (hk : keys.Nodup)
    (rows : List Row) (key : String) :
    rowFor (countUnderAll m keys rows) key =
      if key ∈ keys then (rowFor rows key).count1 m else rowFor rows key := by
  induction keys generalizing rows with
  | nil => rfl
  | cons k keys ih =>
    obtain ⟨hn, hk⟩ := List.nodup_cons.1 hk
    show rowFor (countUnderAll m keys (countUnder m k rows)) key = _
    rw [ih hk, rowFor_countUnder]
    by_cases h : k = key
    · subst h
      rw [if_neg hn, if_pos rfl, if_pos List.mem_cons_self]
    · rw [if_neg h]
      by_cases hm : key ∈ keys
      · rw [if_pos hm, if_pos (List.mem_cons_of_mem _ hm)]
      · rw [if_neg hm, if_neg (List.not_mem_cons_of_ne_of_not_mem (Ne.symm h) hm)]

variable (d : Dimension) (g : Granularity)

/-- the messages that have a key -/
def under (key : String) (ms : List Message) : List Message :=
  ms.filter fun m => key ∈ m.keysOf d g

theorem tally_eq (ms : List Message) :
    tally d g ms = ms.foldl (fun rows m => countUnderAll m (m.keysOf d g) rows) [] := rfl

theorem keys_nodup_tally (ms : List Message) : ((tally d g ms).map Row.key).Nodup := by
  rw [tally_eq]
  suffices h : ∀ rows : List Row, (rows.map Row.key).Nodup →
      ((ms.foldl (fun rows m => countUnderAll m (m.keysOf d g) rows) rows).map Row.key).Nodup from
    h [] List.nodup_nil
  induction ms with
  | nil => exact fun rows h => h
  | cons m ms ih => exact fun rows h => ih _ (keys_nodup_countUnderAll m _ h)

/-- The row of a key is the total of the messages that have the key. -/
theorem rowFor_tally (ms : List Message) (key : String) :
    rowFor (tally d g ms) key = Row.total key (under d g key ms) := by
  rw [tally_eq]
  suffices h : ∀ rows : List Row,
      rowFor (ms.foldl (fun rows m => countUnderAll m (m.keysOf d g) rows) rows) key =
        (under d g key ms).foldl Row.count1 (rowFor rows key) from h []
  induction ms with
  | nil => exact fun rows => rfl
  | cons m ms ih =>
    intro rows
    rw [List.foldl_cons, ih, rowFor_countUnderAll m (m.keysOf_nodup d g)]
    unfold under
    by_cases h : key ∈ m.keysOf d g
    · rw [if_pos h, List.filter_cons_of_pos (by exact decide_eq_true h), List.foldl_cons]
    · rw [if_neg h, List.filter_cons_of_neg (by simpa using h)]

theorem eq_total_of_mem_tally {ms : List Message} {r : Row} (h : r ∈ tally d g ms) :
    r = Row.total r.key (under d g r.key ms) := by
  rw [← rowFor_tally]
  exact (rowFor_of_mem (keys_nodup_tally d g ms) h).symm

theorem mem_of_mem_page {α : Type} {xs : List α} {limit offset : Nat} {x : α}
    (h : x ∈ page xs limit offset) : x ∈ xs := by
  unfold page at h
  split at h
  · exact List.mem_of_mem_drop h
  · exact List.mem_of_mem_drop (List.mem_of_mem_take h)

theorem mem_of_mem_found {q : Option SearchQuery} {ms : List Message} {m : Message}
    (h : m ∈ found q ms) : m ∈ ms := by
  cases q with
  | none => exact h
  | some q => exact List.mem_of_mem_filter h

/-- **A row of a grouping tells the total of the messages found that have its key, and besides it
only how many rows there are.** -/
theorem eq_total_of_mem_grouped {o : GroupOptions} {ms : List Message} {r : Row}
    (h : r ∈ grouped d o ms) :
    r = { Row.total r.key (under d o.granularity r.key (found (activeQuery o.search) ms)) with
      unique := r.unique } := by
  obtain ⟨s, hs, rfl⟩ := List.mem_map.1 (mem_of_mem_page h)
  have ht := eq_total_of_mem_tally d o.granularity (List.mem_mergeSort.1 hs)
  let unique : Int := ((tally d o.granularity (found (activeQuery o.search) ms)).mergeSort
    (Row.inOrder o.sortField o.direction)).length
  exact congrArg (fun t : Row => { t with unique }) ht

end MailBrowser
