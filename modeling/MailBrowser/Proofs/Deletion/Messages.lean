import Mathlib.Data.List.Infix
import MailBrowser.Proofs.Deletion.Marking
import MailBrowser.Proofs.Deletion.Marks

/-!
# Marked messages and their batch

Marks of messages go along from list to list, but a batch takes its messages from the list on
screen.  A mark whose message is not in that list is not staged, and is gone once a batch is saved.

* `listOnScreen`    the messages of the list on screen, none on other screens;
* `MarksMessage`    a key marks a message of the list on screen;
* `MarkedSince`     a message was marked at some point of a session, and its mark is there since;
* `markedSince_of_marked`   so are all marks of messages;
* `staged_with_the_list`    which of them a batch has, and what a saved batch leaves.
-/

namespace MailBrowser
namespace Browser

variable {b : Browser} {e : Event} {id : Int}

/-! ## the list on screen -/

def listOnScreen (b : Browser) : List Summary :=
  if b.view.level = .list then b.view.data.messages else []

theorem markedProviderIds_eq (b : Browser) : b.markedProviderIds =
    (b.listOnScreen.filter fun m => m.id ∈ b.selection.messages).map Summary.providerId := by
  unfold markedProviderIds listOnScreen
  split <;> rfl

theorem mem_markedProviderIds {p : String} : p ∈ b.markedProviderIds ↔
    ∃ m ∈ b.listOnScreen, m.id ∈ b.selection.messages ∧ m.providerId = p := by
  simp only [markedProviderIds_eq, List.mem_map, List.mem_filter, decide_eq_true_eq, and_assoc]

/-! ## marks of messages -/

/-- The message is under the cursor of the list, or is on screen, and its mark is there afterwards
unless it was taken back. -/
inductive MarksMessage (b : Browser) (m : Summary) : Event → Prop where
  | current (hf : b.Free) (hl : b.view.level = .list) (hm : b.view.message? = some m) :
      MarksMessage b m (.key (.char ' '))
  | visible (hf : b.Free) (hl : b.view.level = .list) (hm : m ∈ b.visible b.view.data.messages) :
      MarksMessage b m (.key (.char 'S'))
  | staged (hf : b.Free) (hl : b.view.level = .list) (hn : b.selection.isEmpty = true)
      (hm : b.view.message? = some m) : MarksMessage b m (.key (.char 'D'))

theorem mem_messages_of_thinned {s t : Selection} (h : s.Thinned t) (hk : id ∈ t.messages) :
    id ∈ s.messages := by
  cases h with
  | same => exact hk
  | noRows d => exact hk
  | none d => exact absurd hk (OrdSet.not_mem_empty id)

/-- On rows, keys are marked and no messages. -/
theorem messages_under (s : Selection) (d : Dimension) : (s.under d).messages = s.messages := by
  unfold Selection.under
  split <;> rfl

theorem mem_messages_toggleMark (h : id ∈ b.toggleMark.selection.messages) :
    id ∈ b.selection.messages ∨
      (b.view.level = .list ∧ ∃ m, b.view.message? = some m ∧ m.id = id) := by
  unfold toggleMark at h
  split at h
  · split at h
    · exact .inl (by rwa [← messages_under b.selection b.view.dimension])
    · exact .inl h
  · split at h
    · exact .inl (by rwa [← messages_under b.selection b.view.dimension])
    · exact .inl h
  · rename_i hl
    split at h
    · rename_i m hm
      exact (OrdSet.mem_toggle h).imp_right fun he => ⟨hl, m, hm, he.symm⟩
    · exact .inl h
  · exact .inl h

theorem mem_messages_markVisible (h : id ∈ b.markVisible.selection.messages) :
    id ∈ b.selection.messages ∨
      (b.view.level = .list ∧ ∃ m ∈ b.visible b.view.data.messages, m.id = id) := by
  unfold markVisible at h
  split at h
  · exact .inl (by rwa [← messages_under b.selection b.view.dimension])
  · exact .inl (by rwa [← messages_under b.selection b.view.dimension])
  · rename_i hl
    exact (OrdSet.mem_insertAll.1 h).imp_right fun hm => ⟨hl, List.mem_map.1 hm⟩
  · exact .inl h

/-- **A mark of a message was there before, or is made on a message of the list on screen.** -/
theorem update_messageMarks (h : id ∈ (b.update e).1.selection.messages) :
    id ∈ b.selection.messages ∨ ∃ m, m.id = id ∧ b.MarksMessage m e := by
  rcases update_marks b e with ht | ht
  · exact .inl (mem_messages_of_thinned ht h)
  · generalize (b.update e).1.selection = t at h ht
    cases ht with
    | current hf =>
      refine (mem_messages_toggleMark h).imp_right ?_
      rintro ⟨hl, m, hm, hid⟩
      exact ⟨m, hid, .current hf hl hm⟩
    | visible hf =>
      refine (mem_messages_markVisible h).imp_right ?_
      rintro ⟨hl, m, hm, hid⟩
      exact ⟨m, hid, .visible hf hl hm⟩
    | staged hf _ hn =>
      refine (mem_messages_toggleMark h).imp_right ?_
      rintro ⟨hl, m, hm, hid⟩
      exact ⟨m, hid, .staged hf hl hn hm⟩

/-! ## sessions -/

def MarkedSince (c : Config) (es : List Event) (m : Summary) : Prop :=
  EverSince c es (fun b e => b.MarksMessage m e) fun b => m.id ∈ b.selection.messages

theorem markedSince_of_marked {c : Config} {es : List Event}
    (h : id ∈ (session c es).1.selection.messages) : ∃ m, m.id = id ∧ MarkedSince c es m := by
  have hs : EverSince c es (fun b e => ∃ m, m.id = id ∧ b.MarksMessage m e)
      fun b => id ∈ b.selection.messages :=
    everSince_of_holds (OrdSet.not_mem_empty id) (fun b e => update_messageMarks) h
  obtain ⟨before, e, after, hes, ⟨m, rfl, hm⟩, hp⟩ := hs
  exact ⟨m, rfl, before, e, after, hes, hm, hp⟩

/-- **Every mark of a message was made on a list on screen, and has been there since.  A batch has
the marked messages of the list on screen, and no others.  Whenever a batch has been saved no mark of
a message is left, staged or not.** -/
theorem staged_with_the_list (c : Config) (es : List Event) :
    let b := (session c es).1
    (∀ id ∈ b.selection.messages, ∃ m, m.id = id ∧ MarkedSince c es m) ∧
      (∀ r, .buildManifest r ∈ (b.press (.char 'd')).2 →
        (∀ m ∈ b.listOnScreen, m.id ∈ b.selection.messages → m.providerId ∈ r.providerIds) ∧
        ∀ p ∈ r.providerIds, ∃ m ∈ b.listOnScreen,
          m.id ∈ b.selection.messages ∧ m.providerId = p) ∧
      ∀ saved,
        (session c (es ++ [.manifestSaved (.ok saved)])).1.selection.messages = .empty := by
  intro b
  refine ⟨fun id hid => markedSince_of_marked hid, fun r hr => ?_, fun saved => ?_⟩
  · obtain rfl := request_of_press hr
    refine ⟨fun m hm hid => ?_, fun p hp => ?_⟩
    · exact mem_markedProviderIds.2 ⟨m, hm, hid, rfl⟩
    · exact mem_markedProviderIds.1 hp
  · rw [session_concat]
    rfl

/-- One of two messages is marked in the list of their sender. -/
theorem staged_with_the_list_of_a_sender :
    let es := [.rowsLoaded 1 (.ok [oneMessage "alice@example.com"]), .key .enter,
      .messagesLoaded 1 (.ok [toBob.summary, toAnotherBob.summary]), .key (.char ' ')]
    let b := (session {} es).1
    .buildManifest b.stageRequest ∈ (b.press (.char 'd')).2 ∧
      "m1" ∈ b.stageRequest.providerIds ∧ ¬ "m2" ∈ b.stageRequest.providerIds ∧
      ∃ m, m.id = 1 ∧ MarkedSince {} es m := by
  intro es b
  have hr : .buildManifest b.stageRequest ∈ (b.press (.char 'd')).2 := by decide +kernel
  obtain ⟨hmarks, hbatch, -⟩ := staged_with_the_list {} es
  obtain ⟨hall, honly⟩ := hbatch b.stageRequest hr
  refine ⟨hr, hall toBob.summary (by decide +kernel) (by decide +kernel), fun h => ?_,
    hmarks 1 (by decide +kernel)⟩
  obtain ⟨m, hm, hid, hp⟩ := honly "m2" h
  have hids : ∀ m ∈ b.listOnScreen, m.id ∈ b.selection.messages → m.providerId ≠ "m2" := by
    decide +kernel
  exact hids m hm hid hp

/-- The message stays marked where its list is left for the rows, and a batch of the other sender
does not have it. -/
theorem marked_and_not_staged :
    ¬ ∀ (c : Config) (es : List Event) (r : StageRequest) (m : Summary),
      .buildManifest r ∈ ((session c es).1.press (.char 'd')).2 → MarkedSince c es m →
        m.providerId ∈ r.providerIds := by
  intro h
  let before : List Event :=
    [.rowsLoaded 1 (.ok [oneMessage "alice@example.com", oneMessage "carol@example.com"]),
      .key .enter, .messagesLoaded 1 (.ok [toBob.summary])]
  let after : List Event := [.key .escape, .key (.char 'j'), .key (.char ' ')]
  let es := before ++ .key (.char ' ') :: after
  have hm : MarkedSince {} es toBob.summary := by
    refine ⟨before, .key (.char ' '), after, rfl,
      .current ⟨by decide +kernel, by decide +kernel, by decide +kernel, by decide +kernel⟩
        (by decide +kernel) (by decide +kernel), fun mid hmid => ?_⟩
    have hmarked : ∀ mid ∈ after.inits,
        1 ∈ (session {} (before ++ .key (.char ' ') :: mid)).1.selection.messages := by
      decide +kernel
    exact hmarked mid ((List.mem_inits mid after).2 hmid)
  have hs := h {} es (session {} es).1.stageRequest toBob.summary (by decide +kernel) hm
  revert hs
  decide +kernel

end Browser
end MailBrowser
