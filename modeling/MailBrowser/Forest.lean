/-!
# Forests

The places `0, …, n - 1` in trees, each place with its parent.  A root is its own parent.  Trees
are joined by hanging the root of one below the root of the other.

* `Forest`          the parents, and that a climb from parent to parent ends;
* `Forest.root`     the root above a place;
* `Forest.join`     the tree of one place below that of another, `joinAll` for several pairs;
* `Forest.root_join`   what this does to the roots.
-/

namespace MailBrowser

structure Forest (n : Nat) where
  parents : Vector (Fin n) n
  /-- unless it is a root, a place is deeper than its parent -/
  climbs : ∃ depth : Fin n → Nat, ∀ i : Fin n, parents[i] ≠ i → depth parents[i] < depth i

namespace Forest

variable {n : Nat}

/-- the forest of single places -/
def alone (n : Nat) : Forest n where
  parents := .ofFn id
  climbs := ⟨fun _ => 0, fun i h => absurd (by simp) h⟩

def parent (f : Forest n) (i : Fin n) : Fin n := f.parents[i]

theorem wellFounded (f : Forest n) : WellFounded fun j i => f.parent i = j ∧ j ≠ i := by
  obtain ⟨depth, h⟩ := f.climbs
  refine Subrelation.wf (r := fun j i => depth j < depth i) ?_ (measure depth).wf
  rintro j i ⟨rfl, hne⟩
  exact h i hne

/-- the root above a place, where the climb from it ends -/
def root (f : Forest n) (i : Fin n) : Fin n :=
  if _h : f.parent i = i then i else root f (f.parent i)
termination_by f.wellFounded.wrap i
decreasing_by exact ⟨rfl, _h⟩

theorem root_eq_self {f : Forest n} {i : Fin n} (h : f.parent i = i) : f.root i = i := by
  rw [root, dif_pos h]

theorem root_parent (f : Forest n) (i : Fin n) : f.root (f.parent i) = f.root i := by
  by_cases h : f.parent i = i
  · rw [h]
  · rw [root.eq_def f i, dif_neg h]

theorem parent_root (f : Forest n) (i : Fin n) : f.parent (f.root i) = f.root i := by
  induction i using root.induct f with
  | case1 i h => rw [root_eq_self h, h]
  | case2 i h ih => rwa [f.root_parent] at ih

theorem root_root (f : Forest n) (i : Fin n) : f.root (f.root i) = f.root i :=
  root_eq_self (f.parent_root i)

/-! ## joining -/

/-- Hangs the root of `i` below the root of `j`, unless they are one. -/
def join (f : Forest n) (i j : Fin n) : Forest n :=
  if h : f.root i = f.root j then f else
    { parents := f.parents.set (f.root i) (f.root j)
      climbs := by
        obtain ⟨depth, hd⟩ := f.climbs
        -- the whole tree goes down, below its new root
        refine ⟨fun k => if f.root k = f.root i then depth k + depth (f.root j) + 1 else depth k,
          fun k hk => ?_⟩
        simp only [Fin.getElem_fin, Vector.getElem_set, Fin.val_inj] at hk ⊢
        by_cases hki : f.root i = k
        · have hk : f.root k = f.root i := by rw [← hki, root_root]
          have hj : f.root (f.root j) ≠ f.root i := by rw [root_root]; exact Ne.symm h
          rw [if_pos hki, if_neg hj, if_pos hk]
          omega
        · rw [if_neg hki] at hk ⊢
          have hp : f.root f.parents[k.val] = f.root k := f.root_parent k
          have hlt : depth f.parents[k.val] < depth k := hd k hk
          rw [hp]
          split <;> omega }

theorem parent_join {f : Forest n} {i j : Fin n} (h : f.root i ≠ f.root j) (k : Fin n) :
    (f.join i j).parent k = if f.root i = k then f.root j else f.parent k := by
  unfold join parent
  rw [dif_neg h]
  simp only [Fin.getElem_fin, Vector.getElem_set, Fin.val_inj]

/-- The root of a tree that is joined to another is the root of the other. -/
theorem root_join (f : Forest n) (i j k : Fin n) :
    (f.join i j).root k = if f.root k = f.root i then f.root j else f.root k := by
  by_cases h : f.root i = f.root j
  · rw [join, dif_pos h]
    split
    · rename_i hk
      rw [hk, h]
    · rfl
  have hj : (f.join i j).root (f.root j) = f.root j := by
    refine root_eq_self ?_
    rw [parent_join h, if_neg h, parent_root]
  induction k using root.induct f with
  | case1 k hk =>
    rw [root_eq_self hk]
    by_cases hi : k = f.root i
    · rw [if_pos hi, ← root_parent, parent_join h, if_pos hi.symm, hj]
    · rw [if_neg hi]
      refine root_eq_self ?_
      rw [parent_join h, if_neg (Ne.symm hi), hk]
  | case2 k hk ih =>
    have hi : f.root i ≠ k := fun e => hk (by rw [← e, parent_root])
    rw [root_parent] at ih
    rw [← root_parent, parent_join h, if_neg hi, ih]

def joinAll (f : Forest n) (pairs : List (Fin n × Fin n)) : Forest n :=
  pairs.foldl (fun f pair => f.join pair.1 pair.2) f

end Forest
end MailBrowser
