import Mathlib.Data.List.Nodup
import MailBrowser.Proofs.Mail.Components

/-!
# Conversations and the order of the file

Only the last message that carries a name is tied to those that mention it, so that the order of
the messages can matter where a name is carried twice.

* `Conversation.Unthreaded`        messages of different numbers, none in a conversation;
* `Conversation.RepliesTogether`   what mentions a name is in the conversation of all that carry it;
* `Conversation.same_threads_iff`  no order changes a conversation exactly if in no order a reply is
                                   apart from a carrier of the name it mentions;
* `Conversation.reply_moves`       the order can matter.
-/

namespace MailBrowser
namespace Conversation

/-- messages of different numbers, none of them in a conversation -/
structure Unthreaded (ms : List Message) : Prop where
  nodup : (ms.map Message.id).Nodup
  none_yet : ∀ m ∈ ms, m.conversation = 0

/-- What mentions a name is in the conversation of every message that carries the name. -/
def RepliesTogether (ms : List Message) : Prop :=
  ∀ m ∈ ms, ∀ name ∈ m.mentioned, ∀ k ∈ ms, k.messageId = some name →
    k.conversation = m.conversation

/-- Messages of one number are in one conversation. -/
def SameThreads (ms ms' : List Message) : Prop :=
  ∀ m ∈ ms, ∀ m' ∈ ms', m'.id = m.id → m'.conversation = m.conversation

/-- the conversation that a message gets, the names taken as they come -/
def threadOf (ms : List Message) (i : Fin ms.length) : Int := number ms (names ms) i

variable {ms ms' : List Message}

namespace Unthreaded

theorem perm (h : Unthreaded ms) (hp : ms'.Perm ms) : Unthreaded ms' where
  nodup := (hp.map _).nodup_iff.2 h.nodup
  none_yet m hm := h.none_yet m (hp.mem_iff.1 hm)

theorem place_unique (h : Unthreaded ms) {i j : Fin ms.length} (e : (ms.get i).id = (ms.get j).id) :
    i = j := by
  have hi : i.val < (ms.map Message.id).length := by simp
  have hj : j.val < (ms.map Message.id).length := by simp
  have e' : (ms.map Message.id)[i.val] = (ms.map Message.id)[j.val] := by simpa using e
  exact Fin.ext (h.nodup.getElem_inj_iff.1 e')

theorem mem_assign (h : Unthreaded ms) {m : Message} :
    m ∈ assign ms ↔ ∃ i : Fin ms.length, { ms.get i with conversation := threadOf ms i } = m := by
  unfold assign
  rw [assignBy_eq, List.mem_map]
  simp only [List.mem_finRange, true_and]
  refine exists_congr fun i => ?_
  have hi : (ms.get i).conversation = 0 := h.none_yet _ (List.getElem_mem i.isLt)
  unfold Message.threaded
  rw [if_pos hi]
  rfl

/-- Two messages get one conversation exactly if they are of one component. -/
theorem threadOf_eq_iff (h : Unthreaded ms) {i j : Fin ms.length} :
    threadOf ms i = threadOf ms j ↔ Together ms i j := by
  have least := isLeast_number (.refl (names ms))
  constructor
  · intro e
    obtain ⟨a, hia, ha⟩ := (least i).1
    obtain ⟨b, hjb, hb⟩ := (least j).1
    obtain rfl := h.place_unique (ha.trans (e.trans hb.symm))
    exact .trans _ _ _ hia (.symm _ _ hjb)
  · intro hij
    have hset : numbers ms i = numbers ms j := by
      ext id
      constructor
      · rintro ⟨k, hk, rfl⟩
        exact ⟨k, .trans _ _ _ (.symm _ _ hij) hk, rfl⟩
      · rintro ⟨k, hk, rfl⟩
        exact ⟨k, .trans _ _ _ hij hk, rfl⟩
    exact (least i).unique (hset ▸ least j)

theorem repliesTogether_iff (h : Unthreaded ms) :
    RepliesTogether (assign ms) ↔
      ∀ i j : Fin ms.length, ∀ name ∈ (ms.get i).mentioned, (ms.get j).messageId = some name →
        Together ms i j := by
  constructor
  · intro hr i j name hn hj
    exact (h.threadOf_eq_iff.1
      (hr _ (h.mem_assign.2 ⟨i, rfl⟩) name hn _ (h.mem_assign.2 ⟨j, rfl⟩) hj)).symm _ _
  · rintro hr m hm name hn k hk hc
    obtain ⟨i, rfl⟩ := h.mem_assign.1 hm
    obtain ⟨j, rfl⟩ := h.mem_assign.1 hk
    exact (h.threadOf_eq_iff.2 (hr i j name hn hc)).symm

theorem sameThreads_iff (h : Unthreaded ms) (h' : Unthreaded ms') :
    SameThreads (assign ms) (assign ms') ↔
      ∀ i j, (ms'.get j).id = (ms.get i).id → threadOf ms' j = threadOf ms i := by
  constructor
  · intro hs i j e
    exact hs _ (h.mem_assign.2 ⟨i, rfl⟩) _ (h'.mem_assign.2 ⟨j, rfl⟩) e
  · rintro hs m hm m' hm' e
    obtain ⟨i, rfl⟩ := h.mem_assign.1 hm
    obtain ⟨j, rfl⟩ := h'.mem_assign.1 hm'
    exact hs i j e

end Unthreaded

/-! ## another order -/

theorem place_of_perm (hp : ms'.Perm ms) (i : Fin ms'.length) :
    ∃ a : Fin ms.length, ms.get a = ms'.get i := by
  obtain ⟨a, ha, e⟩ := List.getElem_of_mem (hp.mem_iff.1 (List.getElem_mem i.isLt))
  exact ⟨⟨a, ha⟩, e⟩

/-- Where replies are with all carriers, another order ties no more messages. -/
theorem Together.reorder (h : Unthreaded ms) (hr : RepliesTogether (assign ms)) (hp : ms'.Perm ms)
    {i j : Fin ms'.length} (hij : Together ms' i j) {a b : Fin ms.length}
    (ha : ms.get a = ms'.get i) (hb : ms.get b = ms'.get j) : Together ms a b := by
  induction hij generalizing a b with
  | rel i j hij =>
    obtain ⟨name, hn, hj | hj⟩ := hij
    · exact (h.repliesTogether_iff.1 hr) a b name (ha ▸ hn) (hb ▸ hj.1)
    · exact .rel _ _ ⟨name, ha ▸ hn, .inr (hb ▸ hj)⟩
  | refl i =>
    obtain rfl := h.place_unique (congrArg Message.id (ha.trans hb.symm))
    exact .refl _
  | symm i j _ ih => exact .symm _ _ (ih hb ha)
  | trans i k j _ _ ih1 ih2 =>
    obtain ⟨c, hc⟩ := place_of_perm hp k
    exact .trans _ _ _ (ih1 ha hc) (ih2 hc hb)

theorem numbers_reorder (h : Unthreaded ms) (hr : RepliesTogether (assign ms)) (hp : ms'.Perm ms)
    {i : Fin ms'.length} {a : Fin ms.length} (ha : ms.get a = ms'.get i) :
    numbers ms' i ⊆ numbers ms a := by
  rintro id ⟨j, hj, rfl⟩
  obtain ⟨b, hb⟩ := place_of_perm hp j
  exact ⟨b, hj.reorder h hr hp ha hb, congrArg Message.id hb⟩

/-- Where replies are with all carriers in both orders, the conversations are the same. -/
theorem sameThreads_of_repliesTogether (h : Unthreaded ms) (hp : ms'.Perm ms)
    (hr : RepliesTogether (assign ms)) (hr' : RepliesTogether (assign ms')) :
    SameThreads (assign ms) (assign ms') := by
  have h' := h.perm hp
  refine (h.sameThreads_iff h').2 fun a i e => ?_
  obtain ⟨b, hb⟩ := place_of_perm hp i
  obtain rfl : a = b := h.place_unique (e.symm.trans (congrArg Message.id hb.symm))
  have hset : numbers ms' i = numbers ms a :=
    Set.Subset.antisymm (numbers_reorder h hr hp hb) (numbers_reorder h' hr' hp.symm hb.symm)
  exact (isLeast_number (.refl _) i).unique (hset ▸ isLeast_number (.refl _) a)

/-- At the end of the list a carrier is with those that mention the name. -/
theorem together_at_end {l : List Message} {k : Message} {name : String}
    (hk : k.messageId = some name) {i : Fin (l ++ [k]).length}
    (hn : name ∈ ((l ++ [k]).get i).mentioned) (hl : l.length < (l ++ [k]).length) :
    Together (l ++ [k]) i ⟨l.length, hl⟩ := by
  refine .rel _ _ ⟨name, hn, .inl ⟨by simpa using hk, fun j hj => ?_⟩⟩
  have hj' : l.length < j.val := hj
  have := j.isLt
  simp only [List.length_append, List.length_singleton] at this
  omega

/-- If no order changes a conversation, replies are with all carriers. -/
theorem repliesTogether_of_sameThreads (h : Unthreaded ms)
    (hs : ∀ ms', ms'.Perm ms → SameThreads (assign ms) (assign ms')) (hp : ms'.Perm ms) :
    RepliesTogether (assign ms') := by
  have h' := h.perm hp
  refine h'.repliesTogether_iff.2 fun i j name hn hj => h'.threadOf_eq_iff.1 ?_
  -- the carrier is moved to the end
  obtain ⟨l₁, l₂, hl⟩ := List.append_of_mem (List.getElem_mem j.isLt)
  have hmoved : (l₁ ++ l₂ ++ [ms'.get j]).Perm ms' := by
    rw [List.append_assoc]
    conv_rhs => rw [hl]
    have hswap : (l₂ ++ [ms'.get j]).Perm ([ms'.get j] ++ l₂) := List.perm_append_comm
    exact hswap.append_left l₁
  obtain ⟨p, hpi⟩ := place_of_perm hmoved.symm i
  obtain ⟨a, ha⟩ := place_of_perm hp i
  obtain ⟨b, hb⟩ := place_of_perm hp j
  have hend := (h'.perm hmoved).threadOf_eq_iff.2 (together_at_end hj (hpi ▸ hn) (by simp))
  have same' := (h.sameThreads_iff h').1 (hs _ hp)
  have same := (h.sameThreads_iff (h'.perm hmoved)).1 (hs _ (hmoved.trans hp))
  calc threadOf ms' i = threadOf ms a := same' a i (congrArg Message.id ha.symm)
    _ = threadOf _ p := (same a p (congrArg Message.id (hpi.trans ha.symm))).symm
    _ = threadOf _ _ := hend
    _ = threadOf ms b := same b _ (by rw [hb]; simp)
    _ = threadOf ms' j := (same' b j (congrArg Message.id hb.symm)).symm

/-! ## names that are carried once -/

/-- A name that is mentioned is carried by one message at most. -/
def CarriedOnce (ms : List Message) : Prop :=
  ∀ m ∈ ms, ∀ name ∈ m.mentioned, ∀ k ∈ ms, ∀ k' ∈ ms,
    k.messageId = some name → k'.messageId = some name → k = k'

theorem CarriedOnce.perm (hc : CarriedOnce ms) (hp : ms'.Perm ms) : CarriedOnce ms' :=
  fun m hm name hn k hk k' hk' => hc m (hp.mem_iff.1 hm) name hn k (hp.mem_iff.1 hk) k'
    (hp.mem_iff.1 hk')

theorem CarriedOnce.repliesTogether (hc : CarriedOnce ms) (h : Unthreaded ms) :
    RepliesTogether (assign ms) := by
  refine h.repliesTogether_iff.2 fun i j name hn hj => ?_
  refine .rel _ _ ⟨name, hn, .inl ⟨hj, fun k hk e => ?_⟩⟩
  have hjk := hc _ (List.getElem_mem i.isLt) name hn _ (List.getElem_mem j.isLt) _
    (List.getElem_mem k.isLt) hj e
  exact Fin.ne_of_lt hk (h.place_unique (congrArg Message.id hjk))

/-- **The order of the file.**  Whatever the order of messages with different numbers, each gets the
same conversation, exactly if in no order a message is apart from a carrier of a name it mentions.
So it is where no name that is mentioned is carried twice. -/
theorem same_threads_iff (h : Unthreaded ms) :
    ((∀ ms', ms'.Perm ms → SameThreads (assign ms) (assign ms')) ↔
      ∀ ms', ms'.Perm ms → RepliesTogether (assign ms')) ∧
    (CarriedOnce ms → ∀ ms', ms'.Perm ms →
      SameThreads (assign ms) (assign ms') ∧ RepliesTogether (assign ms')) := by
  refine ⟨⟨fun hs ms' hp => repliesTogether_of_sameThreads h hs hp, fun hr ms' hp => ?_⟩,
    fun hc ms' hp => ?_⟩
  · exact sameThreads_of_repliesTogether h hp (hr ms (.refl _)) (hr ms' hp)
  · have hr' := (hc.perm hp).repliesTogether (h.perm hp)
    exact ⟨sameThreads_of_repliesTogether h hp (hc.repliesTogether h) hr', hr'⟩

/-- a chain of replies, and two that mention what none carries -/
def chain : List Message :=
  [letter 12 (some "c") ["b", "a"], letter 10 (some "a") [], letter 14 none ["gone"],
    letter 11 (some "b") ["a"], letter 13 none ["gone"]]

theorem same_threads_of_a_chain :
    SameThreads (assign chain) (assign chain.reverse) ∧ RepliesTogether (assign chain.reverse) := by
  have h : Unthreaded chain := ⟨by decide +kernel, by decide +kernel⟩
  have hc : CarriedOnce chain := by
    unfold CarriedOnce
    decide +kernel
  exact (same_threads_iff h).2 hc _ (List.reverse_perm chain)

/-! ### one letter in two accounts -/

def toHome : Message := letter 1 (some "a") []

def toWork : Message := { letter 2 (some "a") [] with account := 2 }

def reply : Message := { letter 3 none [] with inReplyTo := some "a" }

/-- The reply is with the copy that stands last, and apart from the other. -/
theorem reply_moves :
    Unthreaded [toHome, toWork, reply] ∧ [toWork, toHome, reply].Perm [toHome, toWork, reply] ∧
    ¬ SameThreads (assign [toHome, toWork, reply]) (assign [toWork, toHome, reply]) ∧
    ¬ RepliesTogether (assign [toHome, toWork, reply]) := by
  have h : assign [toHome, toWork, reply] =
      [toHome.threaded 1, toWork.threaded 2, reply.threaded 2] := by
    simp only [assign, assignBy, forest, Forest.root_joinAll, Forest.root_alone]
    decide +kernel
  have h' : assign [toWork, toHome, reply] =
      [toWork.threaded 2, toHome.threaded 1, reply.threaded 1] := by
    simp only [assign, assignBy, forest, Forest.root_joinAll, Forest.root_alone]
    decide +kernel
  refine ⟨⟨by decide +kernel, by decide +kernel⟩, .swap _ _ _, fun hs => ?_, fun hr => ?_⟩
  · rw [h, h'] at hs
    have := hs (reply.threaded 2) (by simp) (reply.threaded 1) (by simp) rfl
    exact absurd this (by decide +kernel)
  · rw [h] at hr
    have := hr (reply.threaded 2) (by simp) "a" (by decide +kernel) (toHome.threaded 1) (by simp)
      (by decide +kernel)
    exact absurd this (by decide +kernel)

end Conversation
end MailBrowser
