import MailBrowser.Proofs.Archive.Filters
import MailBrowser.Proofs.Group.Sorting
import MailBrowser.Proofs.Mail.Components
import MailBrowser.Proofs.SearchBox.Lexing
import MailBrowser.Archive.Questions

/-!
# One list behind all lookups

Lists, fast searches, their counts and the provider's names are taken from the messages that a
filter selects, and in one order.

* `Summary.Precedes`          the order of a list of messages, spelled out;
* `Archive.list_default`      a list in its usual order is the selected messages as they stand;
* `SearchQuery.parse_blank`   a blank search line asks for nothing;
* `Archive.IsSlice`           what a page of an answer is;
* `Archive.one_list`          how the answers go together.
-/

namespace MailBrowser
open Text

/-! ## the order of messages -/

namespace Summary

/-- the order of a list of messages, equal ones by ascending number -/
def Precedes (field : MessageField) (dir : Direction) (a b : Summary) : Prop :=
  match field with
  | .date => dir.Before a.sentAt b.sentAt ∨ a.sentAt = b.sentAt ∧ a.id ≤ b.id
  | .size => dir.Before a.size b.size ∨ a.size = b.size ∧ a.id ≤ b.id
  | .subject =>
    dir.Before (lower a.subject) (lower b.subject) ∨
      lower a.subject = lower b.subject ∧ a.id ≤ b.id

theorem compareBy_date (a b : Summary) : compareBy .date a b = compare a.sentAt b.sentAt := by
  unfold compareBy
  dsimp only
  rcases lt_trichotomy a.sentAt b.sentAt with h | h | h
  · rw [if_pos (Instant.before_iff.2 h), compare_lt_iff_lt.2 h]
  · have hab : ¬ a.sentAt.before b.sentAt = true := by rw [Instant.before_iff]; exact h.not_lt
    have hba : ¬ b.sentAt.before a.sentAt = true := by rw [Instant.before_iff]; exact h.not_gt
    rw [if_neg hab, if_neg hba, compare_eq_iff_eq.2 h]
  · have hab : ¬ a.sentAt.before b.sentAt = true := by rw [Instant.before_iff]; exact h.not_gt
    rw [if_neg hab, if_pos (Instant.before_iff.2 h), compare_gt_iff_gt.2 h]

theorem inOrder_date (dir : Direction) : inOrder .date dir = dir.ranked sentAt Summary.id := by
  funext a b
  unfold inOrder
  rw [compareBy_date]
  rfl

theorem pairwise_precedes (field : MessageField) (dir : Direction) (l : List Summary) :
    (l.mergeSort (inOrder field dir)).Pairwise (Precedes field dir) := by
  cases field with
  | date =>
    rw [inOrder_date]
    exact dir.pairwise_ranked sentAt Summary.id l
  | size => exact dir.pairwise_ranked Summary.size Summary.id l
  | subject => exact dir.pairwise_ranked (fun s : Summary => lower s.subject) Summary.id l

end Summary

/-! ## the order of an archive -/

theorem Message.displayedBefore_eq :
    displayedBefore = Direction.desc.ranked sentAt Message.id := by
  funext a b
  refine Bool.eq_iff_iff.2 ?_
  rw [Direction.ranked_iff]
  simp only [displayedBefore, Bool.or_eq_true, Bool.and_eq_true, beq_iff_eq, decide_eq_true_eq,
    Instant.before_iff]
  rfl

namespace Archive

/-- newest first, equal times by ascending number -/
def InOrder (a : Archive) : Prop :=
  a.messages.Pairwise fun m m' => m'.sentAt < m.sentAt ∨ m.sentAt = m'.sentAt ∧ m.id ≤ m'.id

theorem inOrder_ofFile (file : ArchiveFile) : (ofFile file).InOrder := by
  unfold InOrder ofFile
  rw [Message.displayedBefore_eq]
  exact Direction.desc.pairwise_ranked Message.sentAt Message.id _

variable {a : Archive}

theorem selected_sublist (a : Archive) (f : Filter) : (a.selected f).Sublist a.messages :=
  List.filter_sublist.trans List.filter_sublist

theorem filter_inConversation_none (ms : List Message) : ms.filter (inConversation none) = ms :=
  List.filter_eq_self.2 fun _ _ => rfl

/-- A list in its usual order has the selected messages as they stand. -/
theorem list_default (h : a.InOrder) (f : Filter) :
    a.list f {} = (a.selected f).map Message.summary := by
  have hsorted : ((a.selected f).map Message.summary).Pairwise fun s t =>
      Summary.inOrder .date .desc s t = true := by
    rw [List.pairwise_map, Summary.inOrder_date]
    refine (List.Pairwise.sublist (selected_sublist a f) h).imp fun {m m'} hm => ?_
    exact (Direction.ranked_iff ..).2 hm
  unfold list
  rw [filter_inConversation_none]
  exact List.mergeSort_of_pairwise hsorted

/-! ## pages -/

/-- the members of an answer from `offset` on, `limit` of them unless it is 0 -/
def IsSlice {α : Type} (all part : List α) (limit offset : Nat) : Prop :=
  ∀ i, part[i]? = if limit = 0 ∨ i < limit then all[offset + i]? else none

theorem isSlice_page {α : Type} (all : List α) (limit offset : Nat) :
    IsSlice all (page all limit offset) limit offset := by
  intro i
  unfold page
  by_cases h : limit = 0
  · rw [if_pos h, if_pos (.inl h), List.getElem?_drop]
  · rw [if_neg h, List.getElem?_take, List.getElem?_drop]
    simp only [h, false_or]

end Archive

/-! ## what a search asks for -/

theorem SearchQuery.parse_blank {line : String} (h : isBlankText line = true) :
    parse line = {} := by
  unfold parse
  rw [SearchBox.lexemes_blank h]
  rfl

namespace Message

theorem fits_empty (m : Message) (reach : Reach) : m.fits {} reach = true := rfl

/-- What fits by subject and sender fits where bodies are looked through too. -/
theorem fits_all_of_headers {m : Message} {q : SearchQuery} (h : m.fits q .headers = true) :
    m.fits q .all = true := by
  have hterms : ∀ term, m.mentions .headers term = true → m.mentions .all term = true := by
    intro term ht
    simp only [mentions, Bool.or_eq_true] at ht ⊢
    exact .inl (ht.resolve_right (by simp))
  simp only [fits, Bool.and_eq_true, List.all_eq_true] at h ⊢
  obtain ⟨⟨⟨⟨⟨⟨ht, hs⟩, hr⟩, hsub⟩, hl⟩, ha⟩, hd⟩ := h
  exact ⟨⟨⟨⟨⟨⟨fun t htm => hterms t (ht t htm), hs⟩, hr⟩, hsub⟩, hl⟩, ha⟩, hd⟩

end Message

namespace Archive

variable (a : Archive)

theorem searchFast_all (line : String) (f : Filter) :
    a.searchFast line f 0 0 =
      ((a.selected f).filter fun m => m.fits (.parse line) .headers).map Message.summary := rfl

/-- Without a filter a fast search looks through all messages. -/
theorem selected_empty : a.selected {} = a.messages := by
  have hscope : a.inScope none false = a.messages := List.filter_eq_self.2 fun _ _ => rfl
  refine Eq.trans (List.filter_eq_self.2 fun m _ => ?_) hscope
  exact Filter.passes_inScope none false m

theorem searchFast_blank {line : String} (h : isBlankText line = true) (f : Filter) :
    a.searchFast line f 0 0 = (a.selected f).map Message.summary := by
  rw [searchFast_all, SearchQuery.parse_blank h, List.filter_eq_self.2]
  exact fun m _ => m.fits_empty .headers

theorem searchFast_sublist_search (line : String) :
    (a.searchFast line {} 0 0).Sublist (a.search line 0 0) := by
  rw [searchFast_all, selected_empty]
  refine List.Sublist.map _ (List.monotone_filter_right _ fun m => ?_)
  exact Message.fits_all_of_headers

theorem sorted_perm (f : Filter) (field : MessageField) (dir : Direction) :
    (a.list f { sortField := field, direction := dir }).Perm
      ((a.selected f).map Message.summary) := by
  have hall : a.list f { sortField := field, direction := dir } =
      (((a.selected f).filter (inConversation none)).map Message.summary).mergeSort
        (Summary.inOrder field dir) := rfl
  rw [hall, filter_inConversation_none]
  exact List.mergeSort_perm _ _

/-- **One list behind all lookups.**  Lists, fast searches, counts and the provider's names are
taken from the same messages in the same order, whatever the order of a list it has these messages,
every page is a slice of the whole answer, and what a fast search finds a deep search finds too. -/
theorem one_list (file : ArchiveFile) (f : Filter) (line : String) :
    let e := (ofFile file).engine
    let ms := (ofFile file).selected f
    e.list f {} = .ok (ms.map Message.summary) ∧
    e.searchFast line f 0 0 =
      .ok ((ms.filter fun m => m.fits (.parse line) .headers).map Message.summary) ∧
    e.countFast line f = .ok (ms.filter fun m => m.fits (.parse line) .headers).length ∧
    (isBlankText line = true → e.searchFast line f 0 0 = e.list f {}) ∧
    (f.isConstrained = true → e.providerIds f = .ok (ms.map Message.providerId)) ∧
    (∀ field dir, ∃ listed, e.list f { sortField := field, direction := dir } = .ok listed ∧
      listed.Perm (ms.map Message.summary) ∧ listed.Pairwise (Summary.Precedes field dir)) ∧
    (∀ o : ListOptions, ∃ all part, e.list f { o with limit := 0, offset := 0 } = .ok all ∧
      e.list f o = .ok part ∧ IsSlice all part o.limit o.offset) ∧
    (∀ limit offset, ∃ all part, e.searchFast line f 0 0 = .ok all ∧
      e.searchFast line f limit offset = .ok part ∧ IsSlice all part limit offset) ∧
    (∀ limit offset, ∃ all part, e.search line 0 0 = .ok all ∧
      e.search line limit offset = .ok part ∧ IsSlice all part limit offset) ∧
    ∃ fast deep, e.searchFast line {} 0 0 = .ok fast ∧ e.search line 0 0 = .ok deep ∧
      fast.Sublist deep := by
  have hlist' : (ofFile file).engine.list f {} = .ok (((ofFile file).selected f).map
      Message.summary) := congrArg _ (list_default (inOrder_ofFile file) f)
  refine ⟨hlist', rfl, ?_, fun hb => ?_, fun hc => if_pos hc, fun field dir => ?_,
    fun o => ?_, fun limit offset => ?_, fun limit offset => ?_, ?_⟩
  · show Except.ok _ = Except.ok _
    rw [countFast, hits, List.length_map]
  · rw [hlist']
    exact congrArg _ (searchFast_blank _ hb f)
  · exact ⟨_, rfl, sorted_perm _ f field dir, Summary.pairwise_precedes field dir _⟩
  · exact ⟨_, _, rfl, rfl, isSlice_page _ _ _⟩
  · exact ⟨_, _, rfl, rfl, isSlice_page _ _ _⟩
  · exact ⟨_, _, rfl, rfl, isSlice_page _ _ _⟩
  · exact ⟨_, _, rfl, rfl, searchFast_sublist_search _ line⟩

/-! ### an archive of one day -/

/-- a message of the first of January 1970 -/
def ofFirstDay (id : Int) (name sender : String) (second : Int) : Message where
  id
  account := 1
  providerId := name
  subject := "Report"
  sender := { email := sender }
  sentAt := .atSecond second

/-- Two of three messages are from Alice, both of one second. -/
def firstDay : ArchiveFile where
  messages := [ofFirstDay 1 "m1" "bob@example.com" 60, ofFirstDay 2 "m2" "alice@example.com" 0,
    ofFirstDay 3 "m3" "alice@example.com" 0]

theorem messages_firstDay :
    (ofFile firstDay).messages = [(ofFirstDay 1 "m1" "bob@example.com" 60).threaded 1,
      (ofFirstDay 2 "m2" "alice@example.com" 0).threaded 2,
      (ofFirstDay 3 "m3" "alice@example.com" 0).threaded 3] := by
  have hc : Conversation.assign firstDay.messages =
      firstDay.messages.map fun m => m.threaded m.id :=
    Conversation.assign_of_unmentioned (by decide +kernel)
  have hsorted : [(ofFirstDay 1 "m1" "bob@example.com" 60).threaded 1,
      (ofFirstDay 2 "m2" "alice@example.com" 0).threaded 2,
      (ofFirstDay 3 "m3" "alice@example.com" 0).threaded 3].Pairwise
        fun m m' => m.displayedBefore m' = true := by decide +kernel
  show (Conversation.assign firstDay.messages).mergeSort _ = _
  rw [hc]
  exact List.mergeSort_of_pairwise hsorted

theorem one_list_of_first_day :
    let f := Filter.forKey .senders "alice@example.com" .month none
    isBlankText " \t" = true ∧ f.isConstrained = true ∧
    (ofFile firstDay).engine.searchFast " \t" f 0 0 = (ofFile firstDay).engine.list f {} ∧
    (ofFile firstDay).engine.providerIds f = .ok ["m2", "m3"] := by
  intro f
  have hb : isBlankText " \t" = true := by decide +kernel
  have hc : f.isConstrained = true := by decide +kernel
  have hids : ((ofFile firstDay).selected f).map Message.providerId = ["m2", "m3"] := by
    unfold selected inScope
    rw [messages_firstDay]
    decide +kernel
  obtain ⟨-, -, -, hblank, hnames, -⟩ := one_list firstDay f " \t"
  refine ⟨hb, hc, hblank hb, ?_⟩
  rw [hnames hc, hids]

end Archive
end MailBrowser
