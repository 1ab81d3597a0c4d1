import Mathlib.Data.Set.Basic
import MailBrowser.Proofs.Archive.Listing
import MailBrowser.Proofs.Deletion.Resolving

/-!
# Staging a request

A request is staged key by key.  What becomes of it is settled by the answers to filters that hold
to one key, and by the first of them that is an error.

* `StageRequest.Resolved`    the provider's names that a request stands for;
* `resolveKeys_eq_error_iff`   resolving fails with the error of the first key that fails;
* `stage_congr`              only constrained filters are asked for;
* `batch_of_request`         what staging comes to.
-/

namespace MailBrowser
open Text

namespace StageRequest

/-- the filter that a key is resolved under -/
def filterOf (r : StageRequest) (key : String) : Filter :=
  .forKey r.dimension key r.granularity r.account

/-- A message is of the account of a request and has one of its keys, up to the case of ASCII
letters; the empty key is that of a message without a value. -/
def Asks (r : StageRequest) (m : Message) : Prop :=
  (∀ account, r.account = some account → m.account = account) ∧
    ∃ key ∈ r.keys, ∃ k ∈ m.keysOf r.dimension r.granularity, sameAscii k key = true

/-- the provider's names that a request stands for -/
def Resolved (r : StageRequest) (a : Archive) : Set String :=
  {id | (∃ m ∈ a.messages, m.providerId = id ∧ r.Asks m) ∨ id ∈ r.providerIds}

theorem isConstrained_filterOf (r : StageRequest) (key : String) :
    (r.filterOf key).isConstrained = true := Filter.isConstrained_apply ..

theorem wants_iff_asks (r : StageRequest) (m : Message) : r.Wants m ↔ r.Asks m := by
  unfold Wants Asks
  refine and_congr ?_ (exists_congr fun key => and_congr_right fun _ => List.any_eq_true)
  unfold Message.inScope
  cases r.account <;> simp

end StageRequest

variable {e e' : Engine} {r : StageRequest}

/-! ## any engine -/

theorem resolveKeys_cons (e : Engine) (r : StageRequest) (key : String) (keys : List String) :
    resolveKeys e r (key :: keys) =
      match e.providerIds (r.filterOf key) with
      | .error err => .error err
      | .ok ids =>
        match resolveKeys e r keys with
        | .error err => .error err
        | .ok more => .ok (ids ++ more) := rfl

/-- the error of the first key that an engine does not resolve -/
def FirstError (e : Engine) (r : StageRequest) (keys : List String) (err : QueryError) : Prop :=
  ∃ before key after, keys = before ++ key :: after ∧
    (∀ k ∈ before, ∃ ids, e.providerIds (r.filterOf k) = .ok ids) ∧
    e.providerIds (r.filterOf key) = .error err

theorem firstError_cons_of_error {key : String} {keys : List String} {err err' : QueryError}
    (h : e.providerIds (r.filterOf key) = .error err) :
    FirstError e r (key :: keys) err' ↔ err = err' := by
  constructor
  · rintro ⟨before, key', after, hk, hok, herr⟩
    cases before with
    | nil =>
      cases hk
      exact Except.error.inj (h.symm.trans herr)
    | cons k before =>
      cases hk
      obtain ⟨ids, hids⟩ := hok key List.mem_cons_self
      cases h.symm.trans hids
  · rintro rfl
    exact ⟨[], key, keys, rfl, by simp, h⟩

theorem firstError_cons_of_ok {key : String} {keys ids : List String} {err : QueryError}
    (h : e.providerIds (r.filterOf key) = .ok ids) :
    FirstError e r (key :: keys) err ↔ FirstError e r keys err := by
  constructor
  · rintro ⟨before, key', after, hk, hok, herr⟩
    cases before with
    | nil =>
      cases hk
      cases h.symm.trans herr
    | cons k before =>
      cases hk
      exact ⟨before, key', after, rfl, fun k hk => hok k (List.mem_cons_of_mem _ hk), herr⟩
  · rintro ⟨before, key', after, rfl, hok, herr⟩
    refine ⟨key :: before, key', after, rfl, fun k hk => ?_, herr⟩
    rcases List.mem_cons.1 hk with rfl | hk
    · exact ⟨ids, h⟩
    · exact hok k hk

theorem resolveKeys_eq_error_iff {keys : List String} {err : QueryError} :
    resolveKeys e r keys = .error err ↔ FirstError e r keys err := by
  induction keys with
  | nil => simp [resolveKeys, FirstError]
  | cons key keys ih =>
    rw [resolveKeys_cons]
    cases hk : e.providerIds (r.filterOf key) with
    | error err' =>
      rw [firstError_cons_of_error hk]
      exact ⟨Except.error.inj, congrArg _⟩
    | ok ids =>
      rw [firstError_cons_of_ok hk, ← ih]
      cases resolveKeys e r keys <;> simp

theorem stage_eq_query_iff {now : Instant} {err : QueryError} :
    stage e r now = .error (.query err) ↔ FirstError e r r.keys err := by
  rw [← resolveKeys_eq_error_iff]
  unfold stage
  cases resolveKeys e r r.keys with
  | error err' => simp
  | ok ids =>
    dsimp only
    split <;> simp

/-- A key that an engine does not resolve makes staging fail. -/
theorem exists_firstError {keys : List String}
    (h : ∃ key ∈ keys, ∃ err, e.providerIds (r.filterOf key) = .error err) :
    ∃ err, FirstError e r keys err := by
  induction keys with
  | nil => simp at h
  | cons key keys ih =>
    cases hk : e.providerIds (r.filterOf key) with
    | error err => exact ⟨err, (firstError_cons_of_error hk).2 rfl⟩
    | ok ids =>
      obtain ⟨key', hmem, err, herr⟩ := h
      rcases List.mem_cons.1 hmem with rfl | hmem
      · cases hk.symm.trans herr
      · obtain ⟨err', h'⟩ := ih ⟨key', hmem, err, herr⟩
        exact ⟨err', (firstError_cons_of_ok hk).2 h'⟩

/-- Only the answers to constrained filters matter. -/
theorem stage_congr (h : ∀ f, f.isConstrained = true → e.providerIds f = e'.providerIds f)
    (now : Instant) : stage e r now = stage e' r now := by
  have hkeys : ∀ keys, resolveKeys e r keys = resolveKeys e' r keys := by
    intro keys
    induction keys with
    | nil => rfl
    | cons key keys ih =>
      rw [resolveKeys_cons, resolveKeys_cons, h _ (r.isConstrained_filterOf key), ih]
  unfold stage
  rw [hkeys]

/-! ## an archive -/

theorem mem_resolved_iff {a : Archive} {id : String} : id ∈ r.Resolved a ↔ id ∈ r.names a := by
  rw [mem_names]
  refine or_congr_left (exists_congr fun m => and_congr_right fun _ => and_congr_right fun _ => ?_)
  exact (r.wants_iff_asks m).symm

/-- A request to an archive comes to a batch, or to nothing if it stands for nothing. -/
theorem stage_archive_cases (a : Archive) (r : StageRequest) (now : Instant) :
    r.Resolved a = ∅ ∧ stage a.engine r now = .error .nothingSelected ∨
      (r.Resolved a).Nonempty ∧ ∃ s, stage a.engine r now = .ok s ∧
        (∀ id, id ∈ s.manifest.providerIds ↔ id ∈ r.Resolved a) ∧
        s.manifest.providerIds.Pairwise (· < ·) := by
  have hset : ∀ id, id ∈ (OrdSet.ofList (r.names a)).items ↔ id ∈ r.Resolved a := fun id => by
    rw [← OrdSet.mem_iff, OrdSet.mem_ofList, mem_resolved_iff]
  rw [stage_archive]
  by_cases h : (OrdSet.ofList (r.names a)).items = []
  · refine .inl ⟨Set.eq_empty_of_forall_notMem fun id hid => ?_, if_pos (List.isEmpty_iff.2 h)⟩
    have hin := (hset id).2 hid
    rw [h] at hin
    cases hin
  · obtain ⟨id, hid⟩ := List.exists_mem_of_ne_nil _ h
    refine .inr ⟨⟨id, (hset id).1 hid⟩, _, if_neg (fun he => h (List.isEmpty_iff.1 he)), hset, ?_⟩
    exact (OrdSet.ofList (r.names a)).sorted

/-- **What staging comes to.**  An archive fails a request only if it stands for nothing, and else
makes a batch of exactly the names that it stands for, in ascending order.  No engine is asked for
an unconstrained filter, and one that fails on a key makes staging fail, with its error on the first
such key. -/
theorem batch_of_request (r : StageRequest) (now : Instant) :
    (∀ a : Archive,
      r.Resolved a = ∅ ∧ stage a.engine r now = .error .nothingSelected ∨
        (r.Resolved a).Nonempty ∧ ∃ s, stage a.engine r now = .ok s ∧
          (∀ id, id ∈ s.manifest.providerIds ↔ id ∈ r.Resolved a) ∧
          s.manifest.providerIds.Pairwise (· < ·)) ∧
    (∀ e e' : Engine, (∀ f, f.isConstrained = true → e.providerIds f = e'.providerIds f) →
      stage e r now = stage e' r now) ∧
    (∀ e : Engine, (∃ key ∈ r.keys, ∃ err, e.providerIds (r.filterOf key) = .error err) →
      ∃ err, FirstError e r r.keys err ∧ stage e r now = .error (.query err)) := by
  refine ⟨fun a => stage_archive_cases a r now, fun e e' h => stage_congr h now, fun e h => ?_⟩
  obtain ⟨err, he⟩ := exists_firstError h
  exact ⟨err, he, stage_eq_query_iff.2 he⟩

/-! ### two spellings and a name -/

/-- both spellings of a name, one of them twice, and a message that is named itself -/
def bothBobs : StageRequest where
  dimension := .senderNames
  keys := ["BOB", "bob", "BOB"]
  providerIds := ["m0"]

/-- an engine that answers every filter -/
def unguarded (a : Archive) : Engine :=
  { a.engine with providerIds := fun f => .ok ((a.selected f).map Message.providerId) }

theorem batch_of_both_bobs :
    (∃ s, stage Archive.oneBob.engine bothBobs .epoch = .ok s ∧
      ∀ id ∈ ["m0", "m1", "m2"], id ∈ s.manifest.providerIds) ∧
    stage (unguarded Archive.oneBob) bothBobs .epoch =
      stage Archive.oneBob.engine bothBobs .epoch ∧
    stage (Engine.failing (.io "gone")) bothBobs .epoch = .error (.query (.io "gone")) := by
  obtain ⟨harchive, hguard, hfail⟩ := batch_of_request bothBobs .epoch
  refine ⟨?_, hguard _ _ fun f hf => (if_pos hf).symm, ?_⟩
  · have hall : ∀ id ∈ ["m0", "m1", "m2"], id ∈ bothBobs.Resolved Archive.oneBob := by
      have hin : ∀ id ∈ ["m0", "m1", "m2"], id ∈ bothBobs.names Archive.oneBob := by decide +kernel
      exact fun id hid => mem_resolved_iff.2 (hin id hid)
    rcases harchive Archive.oneBob with ⟨hnone, -⟩ | ⟨-, s, hs, hmem, -⟩
    · have hm := hall "m0" (by simp)
      rw [hnone] at hm
      exact absurd hm (Set.notMem_empty _)
    · exact ⟨s, hs, fun id hid => (hmem id).2 (hall id hid)⟩
  · obtain ⟨err, ⟨_, _, _, _, _, herr⟩, hstage⟩ :=
      hfail (Engine.failing (.io "gone")) ⟨"BOB", by decide, _, rfl⟩
    cases herr
    exact hstage

end MailBrowser
