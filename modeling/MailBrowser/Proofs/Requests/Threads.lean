import MailBrowser.Browser.Session
import MailBrowser.Proofs.Archive.Lookups
import MailBrowser.Proofs.Browser.Tuning
import MailBrowser.Proofs.Requests.Stance

/-!
# Threads

The messages of a thread are asked for with one more than is shown, so that what comes tells whether
the thread goes on.

* `Archive.thread`            the messages of a conversation in the scope of an account;
* `Archive.list_thread`       what the archive answers: the first of them by date;
* `update_asksThread`         what the browser asks for, at the conversation of its view;
* `threadArrived_cut`         what is shown of the answer, and whether it is cut;
* `thread_exact`              the three together.
-/

namespace MailBrowser

/-! ## the answer of the archive -/

namespace Archive

/-- the messages of a conversation, in the order of display -/
def thread (a : Archive) (account : Option Int) (conversation : Int) : List Message :=
  (a.inScope account false).filter fun m => m.conversation == conversation

theorem selected_inScope (a : Archive) (account : Option Int) (attachmentsOnly : Bool) :
    a.selected (.inScope account attachmentsOnly) = a.inScope account attachmentsOnly :=
  List.filter_eq_self.2 fun m _ => Filter.passes_inScope account attachmentsOnly m

/-- a thread from its first message on, equal times by ascending number -/
def byDate (a : Archive) (account : Option Int) (conversation : Int) : List Summary :=
  ((a.thread account conversation).map Message.summary).mergeSort (Summary.inOrder .date .asc)

theorem byDate_perm (a : Archive) (account : Option Int) (conversation : Int) :
    (a.byDate account conversation).Perm ((a.thread account conversation).map Message.summary) :=
  List.mergeSort_perm _ _

theorem list_thread (a : Archive) (account : Option Int) (conversation : Int) (limit : Nat) :
    a.list (.inScope account false) {
        sortField := .date
        direction := .asc
        limit := limit + 1
        conversation := some conversation } =
      (a.byDate account conversation).take (limit + 1) := by
  unfold list page byDate thread
  rw [selected_inScope, if_neg (Nat.succ_ne_zero limit)]
  rfl

end Archive

namespace Browser

variable {b c : Browser} {id : Nat} {f : Filter} {o : ListOptions}

/-! ## the request -/

/-- A request for the thread of the view, which no request has followed yet. -/
structure AsksThread (b : Browser) (id : Nat) (f : Filter) (o : ListOptions) : Prop where
  current : b.ledger.isCurrent .messages id = true
  scope : f = .inScope b.account false
  options : o = {
    sortField := .date
    direction := .asc
    limit := b.tuning.threadLimit + 1
    conversation := some b.view.conversation }

theorem loadThread_asksThread {x : Effect} (hx : x ∈ c.loadThread.2) (h : x = .loadThread id f o) :
    AsksThread c.loadThread.1 id f o := by
  rw [List.mem_singleton.1 hx] at h
  obtain ⟨rfl, rfl, rfl⟩ := Effect.loadThread.inj h
  exact ⟨beq_self_eq_true _, rfl, rfl⟩

theorem Ending.asksThread {s : Step} (h : Ending c s) (hx : .loadThread id f o ∈ s.2) :
    AsksThread s.1 id f o := by
  cases h with
  | nothing => cases hx
  | notice text => cases List.mem_singleton.1 hx
  | other x hs hn =>
    rw [← List.mem_singleton.1 hx] at hs
    cases hs
  | rows => cases List.mem_singleton.1 hx
  | rowsAndStats =>
    rcases List.mem_append.1 hx with hx | hx
    · cases List.mem_singleton.1 hx
    · cases List.mem_singleton.1 hx
  | messages => cases List.mem_singleton.1 hx
  | thread => exact loadThread_asksThread hx rfl
  | detail message hm => cases List.mem_singleton.1 hx
  | search offset append => cases List.mem_singleton.1 hx

theorem update_asksThread {e : Event} (hx : .loadThread id f o ∈ (b.update e).2) :
    AsksThread (b.update e).1 id f o := by
  obtain ⟨c, hc, -⟩ := update_ends b e
  exact hc.asksThread hx

theorem AsksThread.perform (h : AsksThread b id f o) {a : Archive} {s : Session}
    (hs : s.engine = a.engine) (t : Instant) :
    s.perform t (.loadThread id f o) = (s, some (.threadLoaded id
      (.ok ((a.byDate b.account b.view.conversation).take (b.tuning.threadLimit + 1))))) := by
  rw [h.scope, h.options, Session.perform, hs, ← a.list_thread]
  rfl

/-! ## the answer on screen -/

/-- An answer with one message more than is shown tells if there are more. -/
theorem threadArrived_cut (hl : b.view.level = .thread)
    (hc : b.ledger.isCurrent .messages id = true) (messages : List Summary) :
    let shown := b.threadArrived id (.ok (messages.take (b.tuning.threadLimit + 1)))
    shown.view.data.thread = messages.take b.tuning.threadLimit ∧
      (shown.view.threadCut = true ↔ b.tuning.threadLimit < messages.length) := by
  intro shown
  have hshown : shown = { b with
      loading := false
      error := none
      view := showThread b.view (messages.take (b.tuning.threadLimit + 1)) b.tuning.threadLimit
        b.pageSize } := if_pos (by rw [hc, hl]; rfl)
  rw [hshown]
  constructor
  · show (messages.take (b.tuning.threadLimit + 1)).take b.tuning.threadLimit = _
    rw [List.take_take, Nat.min_eq_left (Nat.le_succ _)]
  · show decide (_ < (messages.take (b.tuning.threadLimit + 1)).length) = true ↔ _
    rw [decide_eq_true_iff, List.length_take]
    omega

/-! ## request, answer and screen -/

/-- **A thread is shown from its first message on, as far as the limit goes, and is said to be cut
exactly if it goes on.**  However late the answer comes, it is taken in while no other request has
followed and a thread is on screen, as it is right after the request. -/
theorem thread_exact (a : Archive) {s : Session} (hs : s.engine = a.engine) (t : Instant)
    {e : Event} (hx : .loadThread id f o ∈ (b.update e).2) :
    let asked := (b.update e).1
    let limit := asked.tuning.threadLimit
    let ms := a.thread asked.account asked.view.conversation
    ∃ (answer : Event) (sorted : List Summary),
      s.perform t (.loadThread id f o) = (s, some answer) ∧
      sorted.Perm (ms.map Message.summary) ∧
      sorted.Pairwise (fun x y => x.sentAt < y.sentAt ∨ x.sentAt = y.sentAt ∧ x.id ≤ y.id) ∧
      asked.ledger.isCurrent .messages id = true ∧
      (b.Reachable → asked.view.level = .thread) ∧
      ∀ es, let now := (asked.run es).1
        now.view.level = .thread → now.ledger.isCurrent .messages id = true →
        let shown := (now.update answer).1
        shown.view.data.thread = sorted.take limit ∧
          shown.view.data.thread.length = min limit ms.length ∧
          (shown.view.threadCut = true ↔ limit < ms.length) := by
  intro asked limit ms
  have hasks : AsksThread asked id f o := update_asksThread hx
  have hperm := a.byDate_perm asked.account asked.view.conversation
  have hlength : (a.byDate asked.account asked.view.conversation).length = ms.length := by
    rw [hperm.length_eq, List.length_map]
  refine ⟨_, _, hasks.perform hs t, hperm, Summary.pairwise_precedes .date .asc _, hasks.current,
    fun hb => update_issues hb hx, ?_⟩
  intro es now hl hc shown
  have hlimit : now.tuning.threadLimit = limit :=
    congrArg Tuning.threadLimit (run_tuning asked es)
  have hcut := threadArrived_cut hl hc (a.byDate asked.account asked.view.conversation)
  rw [hlimit, hlength] at hcut
  obtain ⟨hthread, hiff⟩ := hcut
  refine ⟨hthread, ?_, hiff⟩
  rw [← hlength, ← List.length_take]
  exact congrArg List.length hthread

/-- a thread of two messages under a limit of one -/
theorem thread_exact_of_two :
    let a : Archive := {
      accounts := []
      messages := [(Archive.ofFirstDay 1 "m1" "ann@example.com" 60).threaded 7,
        (Archive.ofFirstDay 2 "m2" "bob@example.com" 0).threaded 7] }
    let s : Session := { engine := a.engine, files := .fresh, dataDir := ".", exportDir := "." }
    let list : View := { level := .list, data := { messages := [{ id := 1, conversation := 7 }] } }
    let b : Browser := { tuning := Config.tuning { threadLimit := 1 }, view := list }
    let asked := (b.update (.key (.char 'T'))).1
    ∃ id f o answer, .loadThread id f o ∈ (b.update (.key (.char 'T'))).2 ∧
      s.perform .epoch (.loadThread id f o) = (s, some answer) ∧
      (asked.update answer).1.view.data.thread.length = 1 ∧
      (asked.update answer).1.view.threadCut = true := by
  intro a s list b asked
  have hx : .loadThread 1 (.inScope none false) {
      sortField := .date, direction := .asc, limit := 2, conversation := some 7 } ∈
        (b.update (.key (.char 'T'))).2 := by decide +kernel
  obtain ⟨answer, sorted, hanswer, -, -, hcurrent, -, hshown⟩ :=
    thread_exact a (s := s) rfl .epoch hx
  have hlevel : asked.view.level = .thread := by decide +kernel
  have hlimit : asked.tuning.threadLimit = 1 := by decide +kernel
  have hms : (a.thread asked.account asked.view.conversation).length = 2 := by decide +kernel
  obtain ⟨-, hlength, hcut⟩ := hshown [] hlevel hcurrent
  rw [hlimit, hms] at hlength hcut
  exact ⟨_, _, _, answer, hx, hanswer, hlength, hcut.2 (by decide)⟩

end Browser
end MailBrowser
