import MailBrowser.Browser.Session
import MailBrowser.Proofs.Archive.Tally
import MailBrowser.Proofs.Deletion.Resolving
import MailBrowser.Proofs.Navigation.Stack

/-!
# What marked rows stage

* `Tagged`            marks of rows are under the dimension on screen; `Reachable.tagged` in every
                      session;
* `request_of_press`  `d` asks for the batch of what is marked, where a list is on screen;
* `rowsOf`            the rows that an archive answers to the load of a view;
* `counted`           the messages that a row of them counts;
* `staged_by_rows`    the batch of marked rows, message by message.
-/

namespace MailBrowser
namespace Browser
open Text

variable {b c : Browser}

/-! ## marks and their dimension -/

def Tagged (b : Browser) : Prop :=
  b.view.level.isGrouped = true → b.selection.dimension = b.view.dimension

theorem SamePlace.tagged (h : SamePlace b c) (hb : b.Tagged) : c.Tagged := by
  intro hl
  rw [h.level] at hl
  rw [h.dimension]
  rcases h.tag with ht | ht
  · exact ht.trans (hb hl)
  · exact ht

theorem Line.tagged (h : Line b c) (hb : b.Tagged) : c.Tagged := by
  intro hl
  rw [View.of_outline View.level (fun _ => rfl) h.outline] at hl
  rw [h.tag, View.of_outline View.dimension (fun _ => rfl) h.outline]
  exact hb hl

theorem Here.tagged (h : Here b c) (hb : b.Tagged) : c.Tagged := by
  intro hl
  rw [h.level] at hl
  rcases h.tag with ⟨hs, hd⟩ | ht
  · rw [hs, hd]
    exact hb hl
  · exact ht

/-- Of what is gone down to, only rows have marks of rows. -/
theorem Entry.tagged {s : Step} (h : Entry b c s) : c.Tagged := by
  intro hl
  cases h with
  | list hb hc => rw [hc] at hl; cases hl
  | results hb hc => rw [hc] at hl; cases hl
  | rows hb hc ht => exact ht
  | message m hb hc => rw [hc] at hl; cases hl
  | thread hb hc => rw [hc] at hl; cases hl

theorem dimension_retagFor {s : Selection} {v : View} (hl : v.level.isGrouped = true) :
    (retagFor s v).dimension = v.dimension := by
  unfold retagFor
  rw [hl, Bool.true_and]
  split
  · rfl
  · rename_i h
    simpa using h

theorem tagged_kept : Kept Tagged where
  launch _ _ := rfl
  place h := h.tagged
  line h := h.tagged
  here h := h.tagged
  down _ he _ := he.tagged
  resume _ _ hl := dimension_retagFor hl
  top h _ := h.tag

theorem Reachable.tagged (h : Reachable b) : b.Tagged := tagged_kept.reachable h

/-! ## the request -/

theorem request_of_stage {r : StageRequest} (h : .buildManifest r ∈ (b.stageMarked false).2) :
    r = b.stageRequest := by
  simp only [stageMarked, Bool.false_and, Bool.false_eq_true, if_false] at h
  split at h
  · cases List.mem_singleton.1 h
  · exact Effect.buildManifest.inj (List.mem_singleton.1 h)

/-- No dialog takes the key. -/
theorem pressInDialog_silent (d : Dialog) : (b.pressInDialog d (.char 'd')).2 = [] := by
  cases d <;> rfl

theorem request_of_press {r : StageRequest}
    (h : .buildManifest r ∈ (b.press (.char 'd')).2) : r = b.stageRequest := by
  unfold press at h
  rw [if_neg (by decide)] at h
  split at h
  · cases h
  · split at h
    · rw [pressInDialog_silent] at h
      cases h
    · split at h
      · cases List.mem_singleton.1 h
      · split at h
        · cases h
        · unfold pressOnScreen pressInLevel at h
          dsimp only [pressInMotion?] at h
          cases hl : b.view.level with
          | groups => rw [hl] at h; exact request_of_stage h
          | subgroups => rw [hl] at h; exact request_of_stage h
          | list => rw [hl] at h; exact request_of_stage h
          | reading => rw [hl] at h; cases h
          | thread => rw [hl] at h; cases h

/-! ## what rows count -/

/-- the messages that the rows of the view are of -/
def source (b : Browser) (a : Archive) : List Message :=
  if b.view.level = .subgroups then a.selected b.view.filter
  else a.inScope b.account b.attachmentsOnly

/-- the rows that an archive answers to the load of the view -/
def rowsOf (b : Browser) (a : Archive) : List Row :=
  grouped b.view.dimension b.groupOptions (b.source a)

theorem perform_loadRows (s : Session) (a : Archive) (hs : s.engine = a.engine) (now : Instant) :
    ∃ id x, b.loadRows.2 = [x] ∧
      s.perform now x = (s, some (.rowsLoaded id (.ok (b.rowsOf a)))) := by
  let id := (b.ledger.issue .rows).current .rows
  have hx : b.loadRows.2 = [.loadRows id b.view.dimension
      (if b.view.level = .subgroups then some b.view.filter else none) b.groupOptions] := rfl
  refine ⟨id, _, hx, ?_⟩
  unfold rowsOf source
  by_cases hl : b.view.level = .subgroups
  · rw [if_pos hl, if_pos hl]
    unfold Session.perform
    rw [hs]
    rfl
  · rw [if_neg hl, if_neg hl]
    unfold Session.perform
    rw [hs]
    rfl

/-- the messages that the row of a key counts -/
def counted (b : Browser) (a : Archive) (key : String) : List Message :=
  under b.view.dimension b.view.granularity key
    (found (activeQuery b.groupOptions.search) (b.source a))

theorem eq_total_of_mem_rowsOf {a : Archive} {r : Row} (h : r ∈ b.rowsOf a) :
    r = { Row.total r.key (b.counted a r.key) with unique := r.unique } :=
  eq_total_of_mem_grouped _ h

theorem mem_of_mem_source {a : Archive} {m : Message} (hb : b.OfAccount) (h : m ∈ b.source a) :
    m ∈ a.messages ∧ m.inScope b.account false = true := by
  unfold source at h
  split at h
  · obtain ⟨⟨hm, hs⟩, -⟩ := Archive.mem_selected.1 h
    rw [hb.view] at hs
    exact ⟨hm, m.inScope_of_inScope hs⟩
  · obtain ⟨hm, hs⟩ := Archive.mem_inScope.1 h
    exact ⟨hm, m.inScope_of_inScope hs⟩

theorem mem_of_mem_counted {a : Archive} {m : Message} {key : String} (h : m ∈ b.counted a key) :
    m ∈ b.source a ∧ key ∈ m.keysOf b.view.dimension b.view.granularity := by
  obtain ⟨hm, hk⟩ := List.mem_filter.1 h
  exact ⟨mem_of_mem_found hm, of_decide_eq_true hk⟩

/-! ## what is staged -/

/-- the rows of the view are those of all messages of the account -/
structure Whole (b : Browser) : Prop where
  top : b.view.level = .groups
  scope : b.attachmentsOnly = false
  query : b.view.query.isEmpty = true

theorem mem_counted_of_whole {a : Archive} {m : Message} {key : String} (hb : b.Whole)
    (hm : m ∈ a.messages) (hs : m.inScope b.account false = true)
    (hk : key ∈ m.keysOf b.view.dimension b.view.granularity) : m ∈ b.counted a key := by
  have hq : activeQuery b.groupOptions.search = none := by
    show activeQuery (if b.view.query.isEmpty then none else some b.view.query) = none
    rw [if_pos hb.query]
    rfl
  refine List.mem_filter.2 ⟨?_, decide_eq_true hk⟩
  rw [hq]
  show m ∈ b.source a
  unfold source
  rw [if_neg (by rw [hb.top]; decide)]
  refine Archive.mem_inScope.2 ⟨hm, ?_⟩
  rw [hb.scope]
  exact hs

theorem wants_stageRequest (hb : b.Tagged) (hl : b.view.level.isGrouped = true) (m : Message) :
    b.stageRequest.Wants m ↔ m.inScope b.account false = true ∧
      ∃ key ∈ b.selection.keys, m.hasKey b.view.dimension b.view.granularity key = true := by
  rw [← hb hl]
  exact Iff.rfl

theorem markedProviderIds_grouped (hl : b.view.level.isGrouped = true) :
    b.markedProviderIds = [] := by
  unfold markedProviderIds
  rw [if_neg]
  intro h
  rw [h] at hl
  cases hl

/-- **The batch of marked rows names exactly the messages of the account that have a marked key up
to the case of ASCII letters.  Every message that a marked row counts is among them; the drill,
the scope and the search of the rows bound what is counted, and not what is staged.** -/
theorem staged_by_rows {a : Archive} (hb : b.Reachable) (hl : b.view.level.isGrouped = true) :
    (∀ row ∈ b.rowsOf a,
      row = { Row.total row.key (b.counted a row.key) with unique := row.unique }) ∧
    ∀ r now s, .buildManifest r ∈ (b.press (.char 'd')).2 → stage a.engine r now = .ok s →
      (∀ id, id ∈ s.manifest.providerIds ↔ ∃ m ∈ a.messages, m.providerId = id ∧
        m.inScope b.account false = true ∧
        ∃ key ∈ b.selection.keys, m.hasKey b.view.dimension b.view.granularity key = true) ∧
      (∀ row ∈ b.rowsOf a, row.key ∈ b.selection.keys →
        ∀ m ∈ b.counted a row.key, m.providerId ∈ s.manifest.providerIds) ∧
      (b.Whole → ∀ id ∈ s.manifest.providerIds, ∃ key ∈ b.selection.keys, ∃ k,
        sameAscii k key = true ∧ ∃ m ∈ b.counted a k, m.providerId = id) := by
  refine ⟨fun row => eq_total_of_mem_rowsOf, fun r now s hr hs => ?_⟩
  have ht := hb.tagged
  have hmem (id : String) : id ∈ s.manifest.providerIds ↔ ∃ m ∈ a.messages, m.providerId = id ∧
      m.inScope b.account false = true ∧
      ∃ key ∈ b.selection.keys, m.hasKey b.view.dimension b.view.granularity key = true := by
    rw [mem_staged_iff hs, request_of_press hr]
    constructor
    · rintro (⟨m, hm, hid, hw⟩ | hid)
      · exact ⟨m, hm, hid, (wants_stageRequest ht hl m).1 hw⟩
      · have hid : id ∈ b.markedProviderIds := hid
        rw [markedProviderIds_grouped hl] at hid
        cases hid
    · rintro ⟨m, hm, hid, hw⟩
      exact .inl ⟨m, hm, hid, (wants_stageRequest ht hl m).2 hw⟩
  refine ⟨hmem, fun row hrow hk m hm => ?_, fun hw id hid => ?_⟩
  · obtain ⟨hsource, hkey⟩ := mem_of_mem_counted hm
    obtain ⟨hm, hscope⟩ := mem_of_mem_source hb.ofAccount hsource
    exact (hmem _).2 ⟨m, hm, rfl, hscope, row.key, hk, m.hasKey_of_mem hkey⟩
  · obtain ⟨m, hm, rfl, hscope, key, hk, hh⟩ := (hmem id).1 hid
    obtain ⟨k, hkeys, hsame⟩ := List.any_eq_true.1 hh
    exact ⟨key, hk, k, hsame, m, mem_counted_of_whole hw hm hscope hkeys, rfl⟩

def toBob : Message where
  id := 1
  account := 1
  providerId := "m1"
  subject := "hit"
  sender := { email := "alice@example.com", name := "" }
  addressees := [{ email := "bob@example.com", name := "Bob" }]
  sentAt := .epoch
  attachments := [{ id := 1, size := 3 }]

/-- from another sender, without an attachment, on another subject, and to a BOB -/
def toAnotherBob : Message where
  id := 2
  account := 1
  providerId := "m2"
  subject := "miss"
  sender := { email := "carol@example.com", name := "" }
  addressees := [{ email := "bob@example.org", name := "BOB" }]
  sentAt := .epoch

def twoBobs : Archive where
  accounts := [{ id := 1, identifier := "me@example.com" }]
  messages := [toAnotherBob, toBob]

def oneMessage (key : String) : Row :=
  { key, count := 1, attachmentSize := 3, attachments := 1, unique := 1 }

/-- The row of a sender, marked at the top. -/
theorem staged_by_rows_of_a_sender :
    let b := (session {} [.rowsLoaded 1 (.ok [oneMessage "alice@example.com"]),
      .key (.char ' ')]).1
    ∃ s, stage twoBobs.engine b.stageRequest .epoch = .ok s ∧ "m1" ∈ s.manifest.providerIds ∧
      ∀ id ∈ s.manifest.providerIds, ∃ key ∈ b.selection.keys, ∃ k, sameAscii k key = true ∧
        ∃ m ∈ b.counted twoBobs k, m.providerId = id := by
  intro b
  let s : StagedBatch := {
    manifest := .make b.stageRequest.description ["m1"] b.stageRequest.criteria "tui" .epoch
    warning := b.stageRequest.warning }
  have hb : b.Reachable := ⟨{}, _, rfl⟩
  have hs : stage twoBobs.engine b.stageRequest .epoch = .ok s := by decide +kernel
  have hr : .buildManifest b.stageRequest ∈ (b.press (.char 'd')).2 := by decide +kernel
  obtain ⟨hmem, -, hwhole⟩ := (staged_by_rows hb (by decide +kernel)).2 _ _ _ hr hs
  refine ⟨s, hs, (hmem "m1").2 ⟨toBob, by decide +kernel, rfl, rfl, ?_⟩, hwhole ?_⟩
  · exact ⟨"alice@example.com", by decide +kernel, by decide +kernel⟩
  · exact ⟨by decide +kernel, by decide +kernel, by decide +kernel⟩

/-- Only messages with attachments, into a sender, to the names of recipients, a search: the one row
that is left is marked, and a message is staged that is none of these, and has its key in another
case. -/
theorem staged_beyond_the_rows :
    ∃ (a : Archive) (b : Browser) (r : StageRequest) (now : Instant) (s : StagedBatch)
      (m : Message), b.Reachable ∧ b.view.level = .subgroups ∧ b.loading = false ∧
      b.view.data.rows = b.rowsOf a ∧
      (∀ key ∈ b.selection.keys.items, key ∈ b.view.data.rows.map Row.key) ∧
      .buildManifest r ∈ (b.press (.char 'd')).2 ∧ stage a.engine r now = .ok s ∧
      m.providerId ∈ s.manifest.providerIds ∧
      (∀ n ∈ a.messages, n.providerId = m.providerId → n = m) ∧
      m.passes b.view.filter = false ∧ m.inScope b.account b.attachmentsOnly = false ∧
      found (activeQuery b.groupOptions.search) [m] = [] ∧
      ∀ key ∈ b.selection.keys.items, m ∉ under b.view.dimension b.view.granularity key [m] := by
  let b := (session {} [.key (.char 'f'), .key (.char 'j'), .key .enter,
    .rowsLoaded 2 (.ok [oneMessage "alice@example.com"]), .key .enter, .key .tab, .key .tab,
    .key (.char '/'), .key (.char 'h'), .key (.char 'i'), .key (.char 't'), .key .enter,
    .rowsLoaded 5 (.ok [oneMessage "Bob"]), .key (.char ' ')]).1
  let s : StagedBatch := {
    manifest := .make b.stageRequest.description ["m1", "m2"] b.stageRequest.criteria "tui" .epoch
    warning := b.stageRequest.warning }
  exact ⟨twoBobs, b, b.stageRequest, .epoch, s, toAnotherBob, ⟨{}, _, rfl⟩, by decide +kernel,
    by decide +kernel, by decide +kernel, by decide +kernel, by decide +kernel, by decide +kernel,
    by decide +kernel, by decide +kernel, by decide +kernel, by decide +kernel, by decide +kernel,
    by decide +kernel⟩

end Browser
end MailBrowser
