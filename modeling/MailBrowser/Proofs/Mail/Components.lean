import Mathlib.Data.List.FinRange
import Mathlib.Logic.Relation
import Mathlib.Logic.Function.Iterate
import Mathlib.Order.Bounds.Basic
import MailBrowser.Mail.Conversation

/-!
# Conversations are connected components

* `Forest.root_joinAll`     the roots without the climbs;
* `Forest.root_joinAll_iff`   places are in one tree if a chain of joined pairs leads from one to
                             the other;
* `Forest.climb_ends`, `Forest.acyclic`   climbs end, and nothing is above itself;
* `Conversation.Linked`, `Conversation.Together`   an edge of the graph of headers, and a component;
* `Conversation.components`   each message without a conversation takes the smallest number of its
                             component, in whatever order the names are taken.
-/

namespace MailBrowser
open Relation (EqvGen)

theorem eqvGen_lift {α β : Type} {r : α → α → Prop} {s : β → β → Prop} {g : α → β}
    (h : ∀ a b, r a b → EqvGen s (g a) (g b)) {a b : α} (hab : EqvGen r a b) :
    EqvGen s (g a) (g b) :=
  ((EqvGen.is_equivalence s).comap g).eqvGen_iff.1 (EqvGen.mono h a b hab)

namespace Message

/-- a message without its conversation -/
def unthreaded (m : Message) : Message := { m with conversation := 0 }

theorem unthreaded_threaded (m : Message) (c : Int) : (m.threaded c).unthreaded = m.unthreaded := by
  unfold threaded
  split <;> rfl

theorem threaded_threaded (m : Message) (c : Int) : (m.threaded c).threaded c = m.threaded c := by
  unfold threaded
  split
  · exact ite_self _
  · rfl

theorem headers_of_unthreaded {m m' : Message} (h : m.unthreaded = m'.unthreaded) :
    m.id = m'.id ∧ m.messageId = m'.messageId ∧ m.mentioned = m'.mentioned :=
  ⟨(congrArg id h :), (congrArg messageId h :), (congrArg mentioned h :)⟩

end Message

/-! ## trees -/

namespace Forest

variable {n : Nat}

theorem root_alone : (alone n).root = id :=
  funext fun _ => root_eq_self (by simp [parent, alone])

/-- what joining a pair does to the roots -/
def relink (root : Fin n → Fin n) (pair : Fin n × Fin n) (k : Fin n) : Fin n :=
  if root k = root pair.1 then root pair.2 else root k

theorem root_joinAll (f : Forest n) (pairs : List (Fin n × Fin n)) :
    (f.joinAll pairs).root = pairs.foldl relink f.root := by
  induction pairs generalizing f with
  | nil => rfl
  | cons pair pairs ih =>
    have hjoin : (f.join pair.1 pair.2).root = relink f.root pair :=
      funext (f.root_join pair.1 pair.2)
    exact (ih (f.join pair.1 pair.2)).trans (congrArg (pairs.foldl relink) hjoin)

theorem climb_ends (f : Forest n) (i : Fin n) : ∃ k, f.parent^[k] i = f.root i := by
  induction i using root.induct f with
  | case1 i h => exact ⟨0, (root_eq_self h).symm⟩
  | case2 i h ih =>
    obtain ⟨k, hk⟩ := ih
    exact ⟨k + 1, hk.trans (f.root_parent i)⟩

theorem acyclic (f : Forest n) {i : Fin n} {k : Nat} (hk : 0 < k) (h : f.parent^[k] i = i) :
    f.parent i = i := by
  obtain ⟨depth, hd⟩ := f.climbs
  have hle : ∀ k j, depth (f.parent^[k] j) ≤ depth j := by
    intro k
    induction k with
    | zero => exact fun j => Nat.le_refl _
    | succ k ih =>
      intro j
      refine Nat.le_trans (ih (f.parent j)) ?_
      by_cases hj : f.parent j = j
      · exact Nat.le_of_eq (congrArg depth hj)
      · exact Nat.le_of_lt (hd j hj)
  by_contra hi
  have hlt : depth (f.parent i) < depth i := hd i hi
  have hback : depth i ≤ depth (f.parent i) := by
    have := hle (k - 1) (f.parent i)
    rwa [← Function.iterate_succ_apply, Nat.succ_eq_add_one, Nat.sub_add_cancel hk, h] at this
  omega

/-- Joining two places makes one tree of theirs and leaves the others as they are. -/
theorem root_join_iff (f : Forest n) (i j a b : Fin n) :
    (f.join i j).root a = (f.join i j).root b ↔
      EqvGen (fun x y => f.root x = f.root y ∨ (x, y) = (i, j)) a b := by
  constructor
  · have old : ∀ {x y}, f.root x = f.root y →
        EqvGen (fun x y => f.root x = f.root y ∨ (x, y) = (i, j)) x y :=
      fun h => .rel _ _ (.inl h)
    have new : ∀ x, EqvGen (fun x y => f.root x = f.root y ∨ (x, y) = (i, j)) x
        ((f.join i j).root x) := by
      intro x
      rw [root_join]
      split
      · rename_i hx
        exact .trans _ _ _ (.trans _ _ _ (old hx) (.rel _ _ (.inr rfl))) (old (f.root_root j).symm)
      · exact old (f.root_root x).symm
    intro h
    exact .trans _ _ _ (new a) (h ▸ .symm _ _ (new b))
  · intro h
    have he : Equivalence fun x y => (f.join i j).root x = (f.join i j).root y :=
      ⟨fun _ => rfl, Eq.symm, Eq.trans⟩
    refine he.eqvGen_iff.1 (EqvGen.mono ?_ a b h)
    rintro x y (hxy | hxy)
    · simp only [root_join, hxy]
    · cases hxy
      simp only [root_join, if_true]
      split <;> simp_all

theorem root_joinAll_iff (f : Forest n) (pairs : List (Fin n × Fin n)) (a b : Fin n) :
    (f.joinAll pairs).root a = (f.joinAll pairs).root b ↔
      EqvGen (fun x y => f.root x = f.root y ∨ (x, y) ∈ pairs) a b := by
  induction pairs generalizing f with
  | nil =>
    have he : Equivalence fun x y => f.root x = f.root y := ⟨fun _ => rfl, Eq.symm, Eq.trans⟩
    simp only [List.not_mem_nil, or_false]
    exact he.eqvGen_iff.symm
  | cons p pairs ih =>
    obtain ⟨i, j⟩ := p
    refine (ih (f.join i j)).trans ⟨eqvGen_lift (g := id) ?_, eqvGen_lift (g := id) ?_⟩
    · rintro x y (h | h)
      · refine EqvGen.mono ?_ x y ((f.root_join_iff i j x y).1 h)
        rintro x y (h | h)
        · exact .inl h
        · exact .inr (h ▸ List.mem_cons_self)
      · exact .rel _ _ (.inr (List.mem_cons_of_mem _ h))
    · rintro x y (h | h)
      · exact .rel _ _ (.inl ((f.root_join_iff i j x y).2 (.rel _ _ (.inl h))))
      · rcases List.mem_cons.1 h with h | h
        · exact .rel _ _ (.inl ((f.root_join_iff i j x y).2 (.rel _ _ (.inr h))))
        · exact .rel _ _ (.inr h)

end Forest

/-! ## the graph of headers -/

namespace Conversation

variable (ms : List Message)

/-- the last message that carries a name -/
def LastCarrier (name : String) (j : Fin ms.length) : Prop :=
  (ms.get j).messageId = some name ∧ ∀ k, j < k → (ms.get k).messageId ≠ some name

/-- A message mentions a name that another is the last to carry, or that another mentions too. -/
def Linked (i j : Fin ms.length) : Prop :=
  ∃ name ∈ (ms.get i).mentioned, LastCarrier ms name j ∨ name ∈ (ms.get j).mentioned

/-- the messages of one component -/
def Together : Fin ms.length → Fin ms.length → Prop := EqvGen (Linked ms)

/-- the numbers of the messages of a component -/
def numbers (i : Fin ms.length) : Set Int := {id | ∃ j, Together ms i j ∧ (ms.get j).id = id}

variable {ms}

theorem carrier?_eq_some_iff {name : String} {j : Fin ms.length} :
    carrier? ms name = some j ↔ LastCarrier ms name j := by
  have hmem : ∀ k, k ∈ (List.finRange ms.length).filter
      (fun i => (ms.get i).messageId == some name) ↔ (ms.get k).messageId = some name := by
    simp [List.mem_filter]
  have last : ∀ {j}, carrier? ms name = some j → LastCarrier ms name j := by
    intro j h
    obtain ⟨before, hl⟩ := List.getLast?_eq_some_iff.1 h
    refine ⟨(hmem j).1 (hl ▸ List.mem_append_right _ List.mem_cons_self), fun k hjk hk => ?_⟩
    have hs := (List.pairwise_lt_finRange ms.length).filter fun i =>
      (ms.get i).messageId == some name
    have hk' := (hmem k).2 hk
    rw [hl] at hs hk'
    rcases List.mem_append.1 hk' with hk' | hk'
    · exact absurd hjk (Fin.not_lt.2 (Fin.le_of_lt
        ((List.pairwise_append.1 hs).2.2 k hk' j List.mem_cons_self)))
    · rw [List.mem_singleton.1 hk'] at hjk
      exact Fin.lt_irrefl _ hjk
  refine ⟨last, fun h => ?_⟩
  obtain ⟨k, hk⟩ : ∃ k, carrier? ms name = some k :=
    Option.isSome_iff_exists.1 (List.getLast?_isSome.2 (List.ne_nil_of_mem ((hmem j).2 h.1)))
  rcases Nat.lt_trichotomy j k with hjk | hjk | hkj
  · exact absurd (last hk).1 (h.2 k hjk)
  · exact Fin.ext hjk ▸ hk
  · exact absurd h.1 ((last hk).2 j hkj)

theorem mem_mentioning {name : String} {i : Fin ms.length} :
    i ∈ mentioning ms name ↔ name ∈ (ms.get i).mentioned := by
  simp [mentioning]

theorem mem_replies {i j : Fin ms.length} :
    (i, j) ∈ replies ms ↔ ∃ name ∈ (ms.get i).mentioned, LastCarrier ms name j := by
  simp only [replies, List.mem_flatMap, List.mem_filterMap, List.mem_finRange, true_and,
    Option.map_eq_some_iff, carrier?_eq_some_iff, Prod.mk.injEq]
  constructor
  · rintro ⟨i, name, hn, j, hj, rfl, rfl⟩
    exact ⟨name, hn, hj⟩
  · rintro ⟨name, hn, hj⟩
    exact ⟨i, name, hn, j, hj, rfl, rfl⟩

theorem mem_of_mem_withFirst {α : Type} {l : List α} {a b : α} (h : (a, b) ∈ withFirst l) :
    a ∈ l ∧ b ∈ l := by
  cases l with
  | nil => cases h
  | cons first others =>
    obtain ⟨other, ho, he⟩ := List.mem_map.1 h
    cases he
    exact ⟨List.mem_cons_self, List.mem_cons_of_mem _ ho⟩

theorem withFirst_connects {α : Type} {l : List α} {a b : α} (ha : a ∈ l) (hb : b ∈ l) :
    EqvGen (fun a b => (a, b) ∈ withFirst l) a b := by
  cases l with
  | nil => cases ha
  | cons first others =>
    have hfirst : ∀ c ∈ first :: others,
        EqvGen (fun a b => (a, b) ∈ withFirst (first :: others)) first c := by
      intro c hc
      rcases List.mem_cons.1 hc with rfl | hc
      · exact .refl _
      · exact .rel _ _ (List.mem_map_of_mem hc)
    exact .trans _ _ _ (.symm _ _ (hfirst a ha)) (hfirst b hb)

/-! ## trees are components -/

theorem mem_names {name : String} :
    name ∈ names ms ↔ ∃ i : Fin ms.length, name ∈ (ms.get i).mentioned := by
  rw [names, List.mem_eraseDups, List.mem_flatMap]
  constructor
  · rintro ⟨m, hm, hn⟩
    obtain ⟨i, hi, rfl⟩ := List.getElem_of_mem hm
    exact ⟨⟨i, hi⟩, hn⟩
  · rintro ⟨i, hn⟩
    exact ⟨_, List.getElem_mem i.isLt, hn⟩

variable {order : List String}

theorem root_forest_iff (h : order.Perm (names ms)) (i j : Fin ms.length) :
    (forest ms order).root i = (forest ms order).root j ↔ Together ms i j := by
  refine (Forest.root_joinAll_iff _ _ i j).trans
    ⟨eqvGen_lift (g := id) ?_, eqvGen_lift (g := id) ?_⟩
  · rintro x y (hxy | hxy)
    · rw [Forest.root_alone] at hxy
      exact hxy ▸ .refl _
    · rcases List.mem_append.1 hxy with hxy | hxy
      · obtain ⟨name, hn, hy⟩ := mem_replies.1 hxy
        exact .rel _ _ ⟨name, hn, .inl hy⟩
      · obtain ⟨name, -, hxy⟩ := List.mem_flatMap.1 hxy
        obtain ⟨hx, hy⟩ := mem_of_mem_withFirst hxy
        exact .rel _ _ ⟨name, mem_mentioning.1 hx, .inr (mem_mentioning.1 hy)⟩
  · rintro x y ⟨name, hx, hy | hy⟩
    · exact .rel _ _ (.inr (List.mem_append_left _ (mem_replies.2 ⟨name, hx, hy⟩)))
    · have ho : name ∈ order := h.mem_iff.2 (mem_names.2 ⟨x, hx⟩)
      refine EqvGen.mono ?_ x y (withFirst_connects (mem_mentioning.2 hx) (mem_mentioning.2 hy))
      exact fun a b hab => .inr (List.mem_append_right _ (List.mem_flatMap.2 ⟨name, ho, hab⟩))

/-! ## the smallest number -/

theorem smallestId_isLeast {α : Type} [BEq α] [LawfulBEq α] {marked : List (Message × α)}
    {mark : α} {m : Message} (hm : (m, mark) ∈ marked) :
    IsLeast {id | ∃ m, (m, mark) ∈ marked ∧ m.id = id} (smallestId marked mark) := by
  have hmem : ∀ id, id ∈ (marked.filter fun p => p.2 == mark).map (fun p => p.1.id) ↔
      ∃ m, (m, mark) ∈ marked ∧ m.id = id := by
    intro id
    simp only [List.mem_map, List.mem_filter, beq_iff_eq]
    constructor
    · rintro ⟨p, ⟨hp, rfl⟩, rfl⟩
      exact ⟨p.1, hp, rfl⟩
    · rintro ⟨m, hm, rfl⟩
      exact ⟨(m, mark), ⟨hm, rfl⟩, rfl⟩
  obtain ⟨c, hc⟩ : ∃ c, ((marked.filter fun p => p.2 == mark).map fun p => p.1.id).min? = some c :=
    Option.isSome_iff_exists.1
      (List.isSome_min?_of_mem ((hmem m.id).2 ⟨m, hm, rfl⟩))
  obtain ⟨hin, hle⟩ := List.min?_eq_some_iff.1 hc
  rw [smallestId, hc]
  exact ⟨(hmem c).1 hin, fun id hid => hle id ((hmem id).2 hid)⟩

/-- the conversation that a message gets -/
def number (ms : List Message) (order : List String) (i : Fin ms.length) : Int :=
  smallestId ((List.finRange ms.length).map fun i => (ms.get i, (forest ms order).root i))
    ((forest ms order).root i)

theorem isLeast_number (h : order.Perm (names ms)) (i : Fin ms.length) :
    IsLeast (numbers ms i) (number ms order i) := by
  have hset : numbers ms i = {id | ∃ m, (m, (forest ms order).root i) ∈
      (List.finRange ms.length).map (fun i => (ms.get i, (forest ms order).root i)) ∧
        m.id = id} := by
    ext id
    simp only [numbers, Set.mem_ofPred_eq, List.mem_map, List.mem_finRange, true_and, Prod.mk.injEq]
    constructor
    · rintro ⟨j, hj, rfl⟩
      exact ⟨ms.get j, ⟨j, rfl, ((root_forest_iff h i j).2 hj).symm⟩, rfl⟩
    · rintro ⟨m, ⟨j, rfl, hj⟩, rfl⟩
      exact ⟨j, (root_forest_iff h i j).1 hj.symm, rfl⟩
  rw [hset]
  exact smallestId_isLeast (List.mem_map_of_mem (List.mem_finRange i))

theorem number_unique {order' : List String} (h : order.Perm (names ms))
    (h' : order'.Perm (names ms)) : number ms order' = number ms order :=
  funext fun i => (isLeast_number h' i).unique (isLeast_number h i)

/-! ## the messages with their conversations -/

theorem assignBy_eq (ms : List Message) (order : List String) :
    assignBy ms order =
      (List.finRange ms.length).map fun i => (ms.get i).threaded (number ms order i) := by
  unfold assignBy
  dsimp only
  rw [List.map_map]
  rfl

theorem length_assignBy (ms : List Message) (order : List String) :
    (assignBy ms order).length = ms.length := by
  rw [assignBy_eq, List.length_map, List.length_finRange]

theorem get_assignBy (i : Fin (assignBy ms order).length) :
    (assignBy ms order).get i = (ms.get (i.cast (length_assignBy ms order))).threaded
      (number ms order (i.cast (length_assignBy ms order))) := by
  simp only [assignBy_eq, List.get_eq_getElem, List.getElem_map, List.getElem_finRange]
  rfl

/-- Where no message mentions another, each is a conversation of its own. -/
theorem assign_of_unmentioned (h : ∀ m ∈ ms, m.mentioned = []) :
    assign ms = ms.map fun m => m.threaded m.id := by
  have alone : ∀ i j : Fin ms.length, Together ms i j → i = j := by
    intro i j hij
    refine eq_equivalence.eqvGen_iff.1 (EqvGen.mono ?_ i j hij)
    rintro a b ⟨name, hn, -⟩
    exact absurd (h (ms.get a) (List.get_mem ms a) ▸ hn) List.not_mem_nil
  have hnumber : ∀ i : Fin ms.length, number ms (names ms) i = (ms.get i).id := by
    intro i
    obtain ⟨j, hij, hj⟩ := (isLeast_number (.refl (names ms)) i).1
    rw [← hj, alone i j hij]
  conv_rhs => rw [← List.map_getElem_finRange ms, List.map_map]
  rw [assign, assignBy_eq]
  exact List.map_congr_left fun i _ => congrArg (ms.get i).threaded (hnumber i)

/-- Only the conversations of the messages change. -/
theorem map_unthreaded_assignBy (ms : List Message) (order : List String) :
    (assignBy ms order).map Message.unthreaded = ms.map Message.unthreaded := by
  rw [assignBy_eq, List.map_map]
  conv_rhs => rw [← List.map_getElem_finRange ms, List.map_map]
  exact List.map_congr_left fun i _ => Message.unthreaded_threaded (ms.get i) _

/-! ## a second time -/

section
variable {ms' : List Message} (h : ms.map Message.unthreaded = ms'.map Message.unthreaded)
  (hl : ms.length = ms'.length)
include h

theorem headers_cast (i : Fin ms.length) :
    (ms.get i).id = (ms'.get (i.cast hl)).id ∧
      (ms.get i).messageId = (ms'.get (i.cast hl)).messageId ∧
      (ms.get i).mentioned = (ms'.get (i.cast hl)).mentioned := by
  have he := congrArg (fun l => l[i.val]?) h
  have hi : i.val < ms'.length := hl ▸ i.isLt
  simp only [List.getElem?_map, List.getElem?_eq_getElem i.isLt, List.getElem?_eq_getElem hi] at he
  exact Message.headers_of_unthreaded (Option.some.inj he)

/-- Conversations play no part in the graph of headers. -/
theorem Linked.cast {i j : Fin ms.length} (hij : Linked ms i j) :
    Linked ms' (i.cast hl) (j.cast hl) := by
  have hm := fun k => (headers_cast h hl k).2.2
  have hc := fun k => (headers_cast h hl k).2.1
  obtain ⟨name, hn, hj | hj⟩ := hij
  · refine ⟨name, hm i ▸ hn, .inl ⟨hc j ▸ hj.1, fun k hk => ?_⟩⟩
    have := hj.2 (k.cast hl.symm) hk
    rwa [hc] at this
  · exact ⟨name, hm i ▸ hn, .inr (hm j ▸ hj)⟩

theorem Together.cast {i j : Fin ms.length} (hij : Together ms i j) :
    Together ms' (i.cast hl) (j.cast hl) :=
  eqvGen_lift (fun _ _ hab => .rel _ _ (Linked.cast h hl hab)) hij

theorem numbers_cast (i : Fin ms.length) : numbers ms' (i.cast hl) = numbers ms i := by
  have hid := fun k => (headers_cast h hl k).1
  ext id
  constructor
  · rintro ⟨j, hj, rfl⟩
    exact ⟨j.cast hl.symm, Together.cast h.symm hl.symm hj, hid _⟩
  · rintro ⟨j, hj, rfl⟩
    exact ⟨j.cast hl, Together.cast h hl hj, (hid j).symm⟩

end

theorem assignBy_assignBy {order' : List String} (h : order.Perm (names ms))
    (h' : order'.Perm (names (assignBy ms order))) :
    assignBy (assignBy ms order) order' = assignBy ms order := by
  have hl := length_assignBy ms order
  have hsame : ∀ i, number (assignBy ms order) order' i = number ms order (i.cast hl) := by
    intro i
    have hleast := isLeast_number h' i
    rw [← numbers_cast (map_unthreaded_assignBy ms order) hl] at hleast
    exact hleast.unique (isLeast_number h _)
  refine List.ext_get (length_assignBy _ _) fun n _ hn => ?_
  calc _ = ((assignBy ms order).get ⟨n, hn⟩).threaded (number _ order' ⟨n, hn⟩) := get_assignBy _
    _ = (assignBy ms order).get ⟨n, hn⟩ := by rw [hsame, get_assignBy, Message.threaded_threaded]

/-- **Conversations are the components of the graph of headers.**  Each message that is in none gets
the smallest number of its component, and nothing else changes.  The names may be taken in any
order, on the way no message comes to be above itself, so that every climb ends, and doing it again
changes nothing. -/
theorem components (ms : List Message) (order : List String) (h : order.Perm (names ms)) :
    (assignBy ms order).length = ms.length ∧
    (∀ i : Fin ms.length, ∃ c, IsLeast {id | ∃ j, Together ms i j ∧ (ms.get j).id = id} c ∧
      (assignBy ms order)[i.val]? = some
        (if (ms.get i).conversation = 0 then { ms.get i with conversation := c } else ms.get i)) ∧
    assignBy ms order = assign ms ∧
    (∀ done, done <+: joined ms order →
      let f := (Forest.alone ms.length).joinAll done
      (∀ i k, 0 < k → f.parent^[k] i = i → f.parent i = i) ∧
      ∀ i, ∃ k, f.parent^[k] i = f.root i ∧ f.parent (f.root i) = f.root i) ∧
    ∀ order', order'.Perm (names (assignBy ms order)) →
      assignBy (assignBy ms order) order' = assignBy ms order := by
  refine ⟨length_assignBy ms order, fun i => ⟨_, isLeast_number h i, ?_⟩, ?_, fun done _ => ?_,
    fun order' h' => assignBy_assignBy h h'⟩
  · have hi : i.val < (assignBy ms order).length := by
      rw [length_assignBy]
      exact i.isLt
    rw [List.getElem?_eq_getElem hi]
    exact congrArg some (get_assignBy ⟨i, hi⟩)
  · rw [assign, assignBy_eq, assignBy_eq, number_unique (.refl _) h]
  · refine ⟨fun i k hk hi => Forest.acyclic _ hk hi, fun i => ?_⟩
    obtain ⟨k, hk⟩ := Forest.climb_ends ((Forest.alone ms.length).joinAll done) i
    exact ⟨k, hk, Forest.parent_root _ i⟩

/-! ### five letters -/

/-- a message with nothing but its headers -/
def letter (id : Int) (carried : Option String) (mentioned : List String) : Message where
  id
  account := 1
  providerId := ""
  subject := ""
  sender := { email := "alice@example.com" }
  sentAt := .epoch
  messageId := carried
  references := mentioned

/-- The first and the last name each other, the second itself, two carry one name, and a name that
none carries ties the fourth to the last. -/
def letters : List Message :=
  [letter 7 (some "a") ["c"], letter 5 (some "b") ["b"], letter 9 (some "a") [],
    { letter 3 none ["gone"] with conversation := 99 }, letter 4 (some "c") ["gone", "a"]]

theorem components_of_letters :
    ["gone", "a", "b", "c"].Perm (names letters) ∧
    assignBy letters ["gone", "a", "b", "c"] = assign letters ∧
    (assign letters).map Message.conversation = [3, 5, 3, 99, 3] ∧
    IsLeast {id | ∃ j, Together letters ⟨2, by decide⟩ j ∧ (letters.get j).id = id} 3 ∧
    assign (assign letters) = assign letters := by
  have h : ["gone", "a", "b", "c"].Perm (names letters) := by decide +kernel
  have hc : (assign letters).map Message.conversation = [3, 5, 3, 99, 3] := by
    simp only [assign, assignBy, forest, Forest.root_joinAll, Forest.root_alone]
    decide +kernel
  obtain ⟨-, hleast, he, -, hagain⟩ := components letters ["gone", "a", "b", "c"] h
  refine ⟨h, he, hc, ?_, ?_⟩
  · obtain ⟨c, hl, hget⟩ := hleast ⟨2, by decide⟩
    have hthird := congrArg (fun l => l[2]?) hc
    simp only [List.getElem?_map] at hthird
    rw [he] at hget
    rw [show (assign letters)[2]? = _ from hget] at hthird
    obtain rfl : c = 3 := Option.some.inj hthird
    exact hl
  · rw [← he]
    exact hagain _ (.refl _)

end Conversation
end MailBrowser
