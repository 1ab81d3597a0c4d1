import MailBrowser.Deletion.Staging
import MailBrowser.Proofs.Archive.Filters

/-!
# What a request resolves to

An archive resolves every key, so that a request fails only if it resolves to nothing.

* `StageRequest.Wants`      a message of the account of a request has one of its keys;
* `StageRequest.names`      the provider's names that a request resolves to, message by message;
* `resolveKeys_archive`     an archive answers with the names of all keys;
* `mem_staged_iff`          the batch of a request names the messages that it wants, and those
                            that it names itself.
-/

namespace MailBrowser
namespace StageRequest

/-- what a request asks of a message, by its keys -/
def Wants (r : StageRequest) (m : Message) : Prop :=
  m.inScope r.account false = true ∧
    ∃ key ∈ r.keys, m.hasKey r.dimension r.granularity key = true

def namesUnder (r : StageRequest) (a : Archive) (key : String) : List String :=
  (a.selected (.forKey r.dimension key r.granularity r.account)).map Message.providerId

def names (r : StageRequest) (a : Archive) : List String :=
  r.keys.flatMap (r.namesUnder a) ++ r.providerIds

end StageRequest

variable {a : Archive} {r : StageRequest}

theorem resolveKeys_archive (a : Archive) (r : StageRequest) (keys : List String) :
    resolveKeys a.engine r keys = .ok (keys.flatMap (r.namesUnder a)) := by
  induction keys with
  | nil => rfl
  | cons key keys ih =>
    have hk : a.engine.providerIds (.forKey r.dimension key r.granularity r.account) =
        .ok (r.namesUnder a key) := a.providerIds_forKey ..
    unfold resolveKeys
    rw [hk, ih, List.flatMap_cons]

theorem mem_namesUnder {key id : String} :
    id ∈ r.namesUnder a key ↔ ∃ m ∈ a.messages, m.providerId = id ∧
      m.inScope r.account false = true ∧ m.hasKey r.dimension r.granularity key = true := by
  unfold StageRequest.namesUnder
  rw [List.mem_map]
  constructor
  · rintro ⟨m, hm, rfl⟩
    obtain ⟨⟨hm, hs⟩, hk⟩ := Archive.mem_selected_forKey.1 hm
    exact ⟨m, hm, rfl, hs, hk⟩
  · rintro ⟨m, hm, rfl, hs, hk⟩
    exact ⟨m, Archive.mem_selected_forKey.2 ⟨⟨hm, hs⟩, hk⟩, rfl⟩

theorem mem_names {id : String} :
    id ∈ r.names a ↔
      (∃ m ∈ a.messages, m.providerId = id ∧ r.Wants m) ∨ id ∈ r.providerIds := by
  unfold StageRequest.names
  rw [List.mem_append, List.mem_flatMap]
  refine or_congr_left ⟨?_, ?_⟩
  · rintro ⟨key, hk, hid⟩
    obtain ⟨m, hm, rfl, hs, hh⟩ := mem_namesUnder.1 hid
    exact ⟨m, hm, rfl, hs, key, hk, hh⟩
  · rintro ⟨m, hm, rfl, hs, key, hk, hh⟩
    exact ⟨key, hk, mem_namesUnder.2 ⟨m, hm, rfl, hs, hh⟩⟩

/-- A request to an archive fails only if there is nothing to stage. -/
theorem stage_archive (a : Archive) (r : StageRequest) (now : Instant) :
    stage a.engine r now =
      if (OrdSet.ofList (r.names a)).isEmpty then .error .nothingSelected
      else .ok {
        manifest := .make r.description (OrdSet.ofList (r.names a)).items r.criteria "tui" now
        warning := r.warning } := by
  unfold stage
  rw [resolveKeys_archive]
  rfl

theorem providerIds_of_staged {now : Instant} {s : StagedBatch}
    (h : stage a.engine r now = .ok s) :
    s.manifest.providerIds = (OrdSet.ofList (r.names a)).items := by
  rw [stage_archive] at h
  split at h
  · cases h
  · cases h
    rfl

/-- **A batch names exactly the messages of the account that have one of the keys, and those that
the request names itself.** -/
theorem mem_staged_iff {now : Instant} {s : StagedBatch} (h : stage a.engine r now = .ok s)
    {id : String} :
    id ∈ s.manifest.providerIds ↔
      (∃ m ∈ a.messages, m.providerId = id ∧ r.Wants m) ∨ id ∈ r.providerIds := by
  rw [providerIds_of_staged h, ← OrdSet.mem_iff, OrdSet.mem_ofList, mem_names]

end MailBrowser
