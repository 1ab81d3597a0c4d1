import MailBrowser.Proofs.Deletion.Messages
import MailBrowser.Proofs.Drill.Origins

/-!
# The account of a batch

Over an archive, what is in a list is of the account that is looked at, unless it came with a page
of a deep search: that one goes through the whole archive.  A batch names the account, and has what
is marked in the list.

* `Outcome.of_perform`      what a session makes of an effect;
* `message_of_perform`      the messages in it are of the account that was asked for;
* `AnsweredBy`              a run in which every answer to a request is what a session makes of it;
* `CameDeep`                a message came with a page of a deep search that was shown;
* `of_account_or_deep`      where the messages of a list are from;
* `batch_of_account_iff`    when a batch has messages of its account only.
-/

namespace MailBrowser

/-! ## what an archive answers -/

theorem Session.save_reports (d : Session) (m : Manifest) :
    ∃ r, (d.save m).2 = .manifestSaved r := by
  unfold Session.save
  split
  · exact ⟨_, rfl⟩
  · exact ⟨_, rfl⟩

theorem Session.exportTo_reports (d : Session) (dir : Path) (as : List Attachment) :
    ∃ r, (d.exportTo dir as).2 = .exportFinished r := by
  unfold Session.exportTo
  generalize Export.exportAll d.files d.blobs dir as = result
  exact ⟨result.2, rfl⟩

theorem Outcome.of_perform {d : Session} {now : Instant} {x : Effect} {e : Event}
    (h : (d.perform now x).2 = some e) : Outcome x e := by
  cases x with
  | loadRows id dim f o => cases f <;> cases h <;> exact .rows _ _ _ _ _
  | quit => cases h
  | saveManifest m =>
    obtain ⟨r, hr⟩ := d.save_reports m
    rw [Session.perform, Prod.map_snd, hr, Option.some.injEq] at h
    exact h ▸ .saved m r
  | exportAttachments subject message as =>
    obtain ⟨r, hr⟩ :=
      d.exportTo_reports (Path.join d.exportDir (Export.folderName subject message)) as
    rw [Session.perform, Prod.map_snd, hr, Option.some.injEq] at h
    exact h ▸ .exported subject message as r
  | _ => cases h; constructor

theorem mem_of_mem_list {a : Archive} {f : Filter} {o : ListOptions} {m : Summary}
    (h : m ∈ a.list f o) : ∃ n ∈ a.messages, n.summary = m := by
  have hm := List.mem_mergeSort.1 (mem_of_mem_page h)
  obtain ⟨n, hn, rfl⟩ := List.mem_map.1 hm
  exact ⟨n, (Archive.mem_selected.1 (List.mem_of_mem_filter hn)).1.1, rfl⟩

theorem mem_of_mem_hits {ms : List Message} {line : String} {reach : Reach} {limit offset : Nat}
    {m : Summary} (h : m ∈ page (Archive.hits ms line reach) limit offset) :
    ∃ n ∈ ms, n.summary = m := by
  obtain ⟨n, hn, rfl⟩ := List.mem_map.1 (mem_of_mem_page h)
  exact ⟨n, List.mem_of_mem_filter hn, rfl⟩

theorem mem_of_runSearch {a : Archive} {q : SearchRequest} {p : SearchPage}
    (h : runSearch a.engine q = .ok p) {m : Summary} (hm : m ∈ p.messages) :
    ∃ n ∈ a.messages, n.summary = m := by
  unfold runSearch at h
  split at h
  · cases h
    obtain ⟨n, hn, rfl⟩ := mem_of_mem_hits hm
    exact ⟨n, (Archive.mem_selected.1 hn).1.1, rfl⟩
  · cases h
    exact mem_of_mem_hits hm

/-- An archive answers with its own messages. -/
theorem mem_of_perform {a : Archive} {d : Session} (hd : d.engine = a.engine) {now : Instant}
    {x : Effect} {e : Event} (h : (d.perform now x).2 = some e) {m : Summary}
    (hm : m ∈ e.messages) : ∃ n ∈ a.messages, n.summary = m := by
  cases Outcome.of_perform h with
  | messages id f o r =>
    cases h
    rw [hd] at hm
    exact mem_of_mem_list hm
  | search id q r =>
    cases h
    rw [hd] at hm
    cases hr : runSearch a.engine q with
    | error err => rw [hr] at hm; cases hm
    | ok p =>
      rw [hr] at hm
      exact mem_of_runSearch hr hm
  | _ => cases hm

/-- **A request that is not for a deep search is answered with messages of the account that it is
for.** -/
theorem message_of_perform {a : Archive} {d : Session} (hd : d.engine = a.engine) {now : Instant}
    {x : Effect} {e : Event} (h : (d.perform now x).2 = some e) {n : Int} {only : Bool}
    (hx : x.scope? = some (some n, only)) (hdeep : x.isDeep = false) {m : Summary}
    (hm : m ∈ e.messages) : ∃ o ∈ a.messages, o.account = n ∧ o.providerId = m.providerId := by
  -- the answer is the same from an archive with nothing else
  have hn : ({ d with engine := (a.narrow (some n) only).engine }.perform now x).2 = some e := by
    rw [← scope_answers hx hdeep a d now, ← hd]
    exact h
  obtain ⟨o, ho, rfl⟩ := mem_of_perform rfl hn hm
  obtain ⟨ho, hs⟩ := Archive.mem_inScope.1 ho
  unfold Message.inScope at hs
  rw [Bool.and_eq_true, beq_iff_eq] at hs
  exact ⟨o, ho, hs.1, rfl⟩

namespace Browser

variable {a : Archive} {d : Session} {c : Config} {es fs : List Event} {e : Event} {n : Int}
  {m : Summary} {r : StageRequest}

/-! ## runs over an archive -/

/-- Every answer to a request that has a number is what the session makes of one made earlier. -/
def AnsweredBy (d : Session) (c : Config) (es : List Event) : Prop :=
  ∀ before e after, es = before ++ e :: after → e.stamp?.isSome = true →
    ∃ x ∈ (session c before).2, ∃ now, (d.perform now x).2 = some e

theorem answeredBy_nil (d : Session) (c : Config) : AnsweredBy d c [] := by
  intro before e after h
  cases before <;> cases h

theorem AnsweredBy.concat (h : AnsweredBy d c es) (he : e.stamp?.isSome = true →
    ∃ x ∈ (session c es).2, ∃ now, (d.perform now x).2 = some e) : AnsweredBy d c (es ++ [e]) := by
  intro before f after hes hf
  rcases List.eq_nil_or_concat after with rfl | ⟨mid, last, rfl⟩
  · obtain ⟨rfl, hl⟩ := List.append_inj' hes rfl
    cases hl
    exact he hf
  · have hes : es ++ [e] = before ++ f :: mid ++ [last] := by rw [hes]; simp
    exact h before f mid (List.append_inj' hes rfl).1 hf

theorem AnsweredBy.append (h : AnsweredBy d c es) (hfs : ∀ f ∈ fs, f.stamp? = none) :
    AnsweredBy d c (es ++ fs) := by
  induction fs using List.reverseRecOn with
  | nil => rwa [List.append_nil]
  | append_singleton fs f ih =>
    rw [← List.append_assoc]
    refine (ih fun g hg => hfs g (List.mem_append_left _ hg)).concat fun hf => ?_
    rw [hfs f (List.mem_append_right _ List.mem_cons_self)] at hf
    cases hf

/-- A search is answered. -/
theorem AnsweredBy.found (h : AnsweredBy d c es) (hd : d.engine = a.engine) {id : Nat}
    {q : SearchRequest} (hx : .search id q ∈ (session c es).2) :
    AnsweredBy d c (es ++ [.searchLoaded id q.append (runSearch a.engine q)]) :=
  h.concat fun _ => ⟨.search id q, hx, .epoch, by unfold Session.perform; rw [hd]⟩

/-! ## lists -/

def CameDeep (c : Config) (es : List Event) (m : Summary) : Prop :=
  ∃ before e after, es = before ++ e :: after ∧ (session c before).1.Shows e ∧ m ∈ e.messages ∧
    ∃ x ∈ (session c before).2, x.isDeep = true ∧ Outcome x e

/-- **A message of a list is of the account that is looked at, or came with a deep search.** -/
theorem of_account_or_deep (hd : d.engine = a.engine) (ha : AnsweredBy d c es)
    (hn : (session c es).1.account = some n) (hm : m ∈ (session c es).1.view.data.messages) :
    (∃ o ∈ a.messages, o.account = n ∧ o.providerId = m.providerId) ∨ CameDeep c es m := by
  obtain ⟨before, e, after, hes, hshown, hme, hasked⟩ := (session_holds c es).messages m hm
  obtain ⟨k, hk, -⟩ := hshown.wanted
  obtain ⟨x, hx, now, he⟩ := ha before e after hes (by rw [hk]; rfl)
  have ho : Outcome x e := .of_perform he
  cases hdeep : x.isDeep with
  | true => exact .inr ⟨before, e, after, hes, hshown, hme, x, hx, hdeep, ho⟩
  | false =>
    obtain ⟨asked, hp, hmade⟩ := mem_effects_iff.1 hx
    obtain ⟨only, hscope, -⟩ := hasked asked x hp hmade ho
    rw [hn] at hscope
    exact .inl (message_of_perform hd he hscope hdeep hme)

theorem mem_of_mem_listOnScreen {b : Browser} (h : m ∈ b.listOnScreen) :
    m ∈ b.view.data.messages := by
  unfold listOnScreen at h
  split at h
  · exact h
  · cases h

/-! ## batches -/

theorem account_criteria (r : StageRequest) :
    r.criteria.account = if r.accountName.isEmpty then none else some r.accountName := by
  unfold StageRequest.criteria
  dsimp only
  split
  · rfl
  · split <;> rfl

/-- A batch names no account but the one that is looked at, if that one is known. -/
theorem account_named {b : Browser} (hn : b.account = some n) {name : String}
    (h : b.stageRequest.criteria.account = some name) :
    ∃ account ∈ b.accounts, account.id = n ∧ account.identifier = name := by
  have honly : b.onlyAccount? = b.accounts.find? fun account => account.id == n := by
    unfold onlyAccount?
    rw [hn]
  have hname : b.stageRequest.accountName = (b.onlyAccount?.map Account.identifier).getD "" := rfl
  rw [account_criteria] at h
  split at h
  · cases h
  · rename_i hne
    rw [Option.some.injEq] at h
    rw [hname, honly] at h hne
    cases hf : b.accounts.find? fun account => account.id == n with
    | none =>
      rw [hf] at hne
      exact absurd rfl hne
    | some account =>
      rw [hf] at h
      exact ⟨account, List.mem_of_find?_eq_some hf, by simpa using List.find?_some hf, h⟩

/-- **Over an archive, a batch that is asked for while one account is looked at names that account
or none.  It has messages of the account only, exactly if that holds of what is marked in the list
and came there with a deep search: all else is of the account.** -/
theorem batch_of_account_iff (hd : d.engine = a.engine) (ha : AnsweredBy d c es)
    (hr : Made c es (.buildManifest r)) (hn : (session c es).1.account = some n) {now : Instant}
    {s : StagedBatch} (hs : stage d.engine r now = .ok s) :
    let b := (session c es).1
    (∀ name, s.manifest.criteria.account = some name →
        ∃ account ∈ b.accounts, account.id = n ∧ account.identifier = name) ∧
      ((∀ p ∈ s.manifest.providerIds, ∃ o ∈ a.messages, o.account = n ∧ o.providerId = p) ↔
        ∀ m ∈ b.listOnScreen, m.id ∈ b.selection.messages → CameDeep c es m →
          ∃ o ∈ a.messages, o.account = n ∧ o.providerId = m.providerId) := by
  intro b
  obtain rfl : r = b.stageRequest := hr.batch
  rw [hd] at hs
  refine ⟨fun name hname => account_named hn ?_, fun h m hm hid _ => ?_, fun h p hp => ?_⟩
  · rw [stage_archive] at hs
    split at hs <;> cases hs
    exact hname
  · exact h _ ((mem_staged_iff hs).2 (.inr (mem_markedProviderIds.2 ⟨m, hm, hid, rfl⟩)))
  · rcases (mem_staged_iff hs).1 hp with ⟨o, ho, rfl, hw⟩ | hp
    · have hscope : o.inScope b.account false = true := hw.1
      rw [hn] at hscope
      unfold Message.inScope at hscope
      rw [Bool.and_eq_true, beq_iff_eq] at hscope
      exact ⟨o, ho, hscope.1, rfl⟩
    · obtain ⟨m, hm, hid, rfl⟩ := mem_markedProviderIds.1 hp
      rcases of_account_or_deep hd ha hn (mem_of_mem_listOnScreen hm) with ho | hdeep
      · exact ho
      · exact h m hm hid hdeep

def toColleague : Message := { toAnotherBob with account := 2, subject := "hit" }

def twoAccounts : Archive where
  accounts := [{ id := 1, identifier := "me@example.com" },
    { id := 2, identifier := "work@example.com" }]
  messages := [toBob, toColleague]

/-- In one of the accounts, a search of all messages is committed. -/
def seekInAccount (mode : List Event) : List Event :=
  [.accountsLoaded (.ok twoAccounts.accounts), .key (.char 'A'), .key .down, .key .enter,
    .key (.char 'a'), .key (.char '/')] ++ mode ++
    [.key (.char 'h'), .key (.char 'i'), .key (.char 't'), .key .enter]

def onTwoAccounts : Session where
  engine := twoAccounts.engine
  files := {}
  dataDir := "/data"
  exportDir := "/export"

/-- The search comes back, and all that it has found is marked. -/
def markHits (mode : List Event) : List Event :=
  let b := (session {} (seekInAccount mode)).1
  seekInAccount mode ++
    [.searchLoaded 1 false (runSearch twoAccounts.engine (b.searchRequest 0 false))] ++
    [.key (.char 'S')]

theorem answeredBy_markHits {mode : List Event} (hm : ∀ e ∈ mode, e.stamp? = none)
    (hx : .search 1 ((session {} (seekInAccount mode)).1.searchRequest 0 false) ∈
      (session {} (seekInAccount mode)).2) :
    AnsweredBy onTwoAccounts {} (markHits mode ++ [.key (.char 'd')]) := by
  have hs : ∀ e ∈ seekInAccount mode, e.stamp? = none := by
    simp only [seekInAccount, List.mem_append]
    rintro e ((he | he) | he)
    · revert e
      decide
    · exact hm e he
    · revert e
      decide
  have h := ((answeredBy_nil onTwoAccounts {}).append hs).found (a := twoAccounts) rfl hx
  exact (h.append (by decide)).append (by decide)

theorem batch_of_account_iff_of_a_search :
    let es := markHits [] ++ [.key (.char 'd')]
    let r := (session {} es).1.stageRequest
    AnsweredBy onTwoAccounts {} es ∧ Made {} es (.buildManifest r) ∧
      ∃ s, stage onTwoAccounts.engine r .epoch = .ok s ∧
        s.manifest.criteria.account = some "me@example.com" ∧ s.manifest.providerIds = ["m1"] ∧
        ∀ p ∈ s.manifest.providerIds, ∃ o ∈ twoAccounts.messages,
          o.account = 1 ∧ o.providerId = p := by
  intro es r
  let s : StagedBatch := {
    manifest := .make r.description ["m1"] r.criteria "tui" .epoch
    warning := r.warning }
  have ha : AnsweredBy onTwoAccounts {} es := answeredBy_markHits (by simp) (by decide +kernel)
  have hr : Made {} es (.buildManifest r) := .step (by decide +kernel)
  have hs : stage onTwoAccounts.engine r .epoch = .ok s := by decide +kernel
  have hn : (session {} es).1.account = some 1 := by decide +kernel
  have hlist : (session {} es).1.listOnScreen = [toBob.summary] := by decide +kernel
  refine ⟨ha, hr, s, hs, by decide +kernel, rfl, ?_⟩
  refine (batch_of_account_iff rfl ha hr hn hs).2.2 fun m hm _ _ => ?_
  rw [hlist, List.mem_singleton] at hm
  exact ⟨toBob, .head _, rfl, by rw [hm]; rfl⟩

/-- A deep search finds a message of the other account, and the batch has it. -/
theorem batch_of_another_account :
    ¬ ∀ (a : Archive) (d : Session) (c : Config) (es : List Event) (r : StageRequest) (n : Int)
        (now : Instant) (s : StagedBatch),
      d.engine = a.engine → AnsweredBy d c es →
      (∀ e ∈ es, ∀ r, e = .accountsLoaded r → r = a.engine.accounts) →
      Made c es (.buildManifest r) → (session c es).1.account = some n →
      stage d.engine r now = .ok s →
      (∃ account ∈ a.accounts, account.id = n ∧
        s.manifest.criteria.account = some account.identifier) →
      ∀ p ∈ s.manifest.providerIds, ∃ o ∈ a.messages, o.account = n ∧ o.providerId = p := by
  intro h
  let es := markHits [.key .tab] ++ [.key (.char 'd')]
  let r := (session {} es).1.stageRequest
  let s : StagedBatch := {
    manifest := .make r.description ["m1", "m2"] r.criteria "tui" .epoch
    warning := r.warning }
  have hasked : ∀ e ∈ es, ∀ r, e = .accountsLoaded r → r = twoAccounts.engine.accounts := by
    rintro e he r rfl
    have hr : r = .ok twoAccounts.accounts := by simpa [es, markHits, seekInAccount] using he
    exact hr
  have hp := h twoAccounts onTwoAccounts {} es r 1 .epoch s rfl
    (answeredBy_markHits (by decide) (by decide +kernel)) hasked (.step (by decide +kernel))
    (by decide +kernel) (by decide +kernel) (by decide +kernel) "m2" (by decide +kernel)
  revert hp
  decide +kernel

end Browser
end MailBrowser
