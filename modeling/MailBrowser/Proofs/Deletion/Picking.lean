import MailBrowser.Proofs.Deletion.Marking
import MailBrowser.Proofs.Deletion.Marks
import MailBrowser.Proofs.Drill.Origins

/-!
# Where marked rows were picked

Marks are shared by all levels, and go along down into rows and back.  The keys among them are
nevertheless all of one dimension: the one of the rows that each of them was picked on.

* `Picks`         a key of the keyboard marks the key of a row, on rows of a dimension;
* `Accounted`     marks of rows after a step are those that were there, under their dimension, or
                  are picked; `update_accounted` in every step;
* `PickedSince`   a key was picked at some point of a session and has been marked ever since;
* `marks_keep_dimension`   so were all keys that a batch is asked for.
-/

namespace MailBrowser
namespace Browser

variable {b c : Browser} {e : Event} {key : String} {d : Dimension}

/-! ## marks that are made -/

/-- The keys of the keyboard go to rows of a dimension. -/
structure OnRows (b : Browser) (d : Dimension) : Prop where
  free : b.Free
  grouped : b.view.level.isGrouped = true
  dimension : b.view.dimension = d

/-- The row under the cursor, or one on screen, has the key and gets marked.  With nothing marked,
`D` marks the row under the cursor before it asks for the batch. -/
inductive Picks (b : Browser) (d : Dimension) (key : String) : Event → Prop where
  | current (hb : b.OnRows d) (hr : b.view.row?.map Row.key = some key) :
      Picks b d key (.key (.char ' '))
  | visible (hb : b.OnRows d) (hr : key ∈ (b.visible b.view.data.rows).map Row.key) :
      Picks b d key (.key (.char 'S'))
  | staged (hb : b.OnRows d) (hn : b.selection.isEmpty = true)
      (hr : b.view.row?.map Row.key = some key) : Picks b d key (.key (.char 'D'))

def Accounted (b : Browser) (e : Event) (c : Browser) : Prop :=
  ∀ key ∈ c.selection.keys,
    (key ∈ b.selection.keys ∧ c.selection.dimension = b.selection.dimension) ∨
      b.Picks c.selection.dimension key e

theorem mem_keys_of_thinned {s t : Selection} (h : s.Thinned t) (hk : key ∈ t.keys) :
    key ∈ s.keys ∧ t.dimension = s.dimension := by
  cases h with
  | same => exact ⟨hk, rfl⟩
  | noRows d => exact absurd hk (OrdSet.not_mem_empty key)
  | none d => exact absurd hk (OrdSet.not_mem_empty key)

/-- Keys under a dimension are those that were there, if it is theirs. -/
theorem dimension_of_mem_under {s : Selection} (h : key ∈ (s.under d).keys) :
    key ∈ s.keys ∧ d = s.dimension := by
  unfold Selection.under at h
  split at h
  · rename_i hd
    exact ⟨h, hd.symm⟩
  · exact absurd h (not_mem_retag _ _ key)

theorem toggleMark_rows (hl : b.view.level.isGrouped = true) : b.toggleMark =
    match b.view.row? with
    | some row => { b with selection := b.selection.toggleKey b.view.dimension row.key }
    | none => b := by
  unfold toggleMark
  cases h : b.view.level with
  | groups => rfl
  | subgroups => rfl
  | _ => rw [h] at hl; cases hl

theorem markVisible_rows (hl : b.view.level.isGrouped = true) : b.markVisible =
    { b with
      selection :=
        b.selection.addKeys b.view.dimension ((b.visible b.view.data.rows).map Row.key) } := by
  unfold markVisible
  cases h : b.view.level with
  | groups => rfl
  | subgroups => rfl
  | _ => rw [h] at hl; cases hl

theorem mem_toggleKey {s : Selection} {a : String} (h : key ∈ (s.toggleKey d a).keys) :
    (key ∈ s.keys ∧ (s.toggleKey d a).dimension = s.dimension) ∨ key = a := by
  rcases OrdSet.mem_toggle h with hk | rfl
  · obtain ⟨hk, hd⟩ := dimension_of_mem_under hk
    exact .inl ⟨hk, (Selection.dimension_under s d).trans hd⟩
  · exact .inr rfl

theorem mem_addKeys {s : Selection} {keys : List String} (h : key ∈ (s.addKeys d keys).keys) :
    (key ∈ s.keys ∧ (s.addKeys d keys).dimension = s.dimension) ∨ key ∈ keys := by
  rcases OrdSet.mem_insertAll.1 h with hk | hk
  · obtain ⟨hk, hd⟩ := dimension_of_mem_under hk
    exact .inl ⟨hk, (Selection.dimension_under s d).trans hd⟩
  · exact .inr hk

/-- On a list, messages are marked and no rows. -/
theorem mem_toggleMark (hf : b.Free) (hk : key ∈ b.toggleMark.selection.keys) :
    (key ∈ b.selection.keys ∧ b.toggleMark.selection.dimension = b.selection.dimension) ∨
      (b.OnRows b.toggleMark.selection.dimension ∧ b.view.row?.map Row.key = some key) := by
  cases hl : b.view.level.isGrouped with
  | true =>
    rw [toggleMark_rows hl] at hk ⊢
    cases hr : b.view.row? with
    | none =>
      rw [hr] at hk
      exact .inl ⟨hk, rfl⟩
    | some row =>
      rw [hr] at hk
      refine (mem_toggleKey hk).imp_right ?_
      rintro rfl
      exact ⟨⟨hf, hl, (Selection.dimension_under _ _).symm⟩, rfl⟩
  | false =>
    refine .inl ?_
    unfold toggleMark at hk ⊢
    cases h : b.view.level with
    | groups | subgroups => rw [h] at hl; cases hl
    | list =>
      rw [h] at hk
      cases hm : b.view.message? with
      | none => rw [hm] at hk; exact ⟨hk, rfl⟩
      | some m => rw [hm] at hk; exact ⟨hk, rfl⟩
    | reading | thread => rw [h] at hk; exact ⟨hk, rfl⟩

theorem mem_markVisible (hf : b.Free) (hk : key ∈ b.markVisible.selection.keys) :
    (key ∈ b.selection.keys ∧ b.markVisible.selection.dimension = b.selection.dimension) ∨
      (b.OnRows b.markVisible.selection.dimension ∧
        key ∈ (b.visible b.view.data.rows).map Row.key) := by
  cases hl : b.view.level.isGrouped with
  | true =>
    rw [markVisible_rows hl] at hk ⊢
    refine (mem_addKeys hk).imp_right fun hr => ?_
    exact ⟨⟨hf, hl, (Selection.dimension_under _ _).symm⟩, hr⟩
  | false =>
    refine .inl ?_
    unfold markVisible at hk ⊢
    cases h : b.view.level with
    | groups | subgroups => rw [h] at hl; cases hl
    | list | reading | thread => rw [h] at hk; exact ⟨hk, rfl⟩

/-- **A mark of a row is inherited under its dimension, or is picked on rows of it.** -/
theorem update_accounted (b : Browser) (e : Event) : Accounted b e (b.update e).1 := by
  intro key hk
  rcases update_marks b e with h | h
  · exact .inl (mem_keys_of_thinned h hk)
  · generalize (b.update e).1.selection = t at h hk
    cases h with
    | current hf hl => exact (mem_toggleMark hf hk).imp_right fun ⟨hb, hr⟩ => .current hb hr
    | visible hf hl => exact (mem_markVisible hf hk).imp_right fun ⟨hb, hr⟩ => .visible hb hr
    | staged hf hl hn =>
      exact (mem_toggleMark hf hk).imp_right fun ⟨hb, hr⟩ => .staged hb hn hr

/-! ## sessions -/

/-- The key was picked on rows of the dimension, and has been marked under it since. -/
def PickedSince (c : Config) (es : List Event) (d : Dimension) (key : String) : Prop :=
  ∃ before e after, es = before ++ e :: after ∧ (session c before).1.Picks d key e ∧
    ∀ mid, mid <+: after →
      key ∈ (session c (before ++ e :: mid)).1.selection.keys ∧
        (session c (before ++ e :: mid)).1.selection.dimension = d

/-- **Every marked row has been picked under the dimension of the marks.** -/
theorem pickedSince_of_marked (c : Config) (es : List Event) {key : String}
    (h : key ∈ (session c es).1.selection.keys) :
    PickedSince c es (session c es).1.selection.dimension key := by
  let d := (session c es).1.selection.dimension
  refine everSince_of_holds (A := fun b e => b.Picks d key e)
    (P := fun b => key ∈ b.selection.keys ∧ b.selection.dimension = d)
    (fun h => absurd h.1 (OrdSet.not_mem_empty key)) (fun b e hb => ?_) ⟨h, rfl⟩
  rcases update_accounted b e key hb.1 with ⟨hk, hd⟩ | hp
  · exact .inl ⟨hk, hd.symm.trans hb.2⟩
  · rw [hb.2] at hp
    exact .inr hp

/-- **Where rows are on screen, marks are under their dimension.  And every batch that is asked
for, on any screen, has only keys that were picked on rows of its dimension, and that have been
marked under it since.** -/
theorem marks_keep_dimension (c : Config) (es : List Event) :
    ((session c es).1.view.level.isGrouped = true →
      (session c es).1.selection.dimension = (session c es).1.view.dimension) ∧
    ∀ r, Made c es (.buildManifest r) → ∀ key ∈ r.keys, PickedSince c es r.dimension key := by
  refine ⟨Reachable.tagged ⟨c, es, rfl⟩, fun r hr key hk => ?_⟩
  obtain rfl := hr.batch
  exact pickedSince_of_marked c es hk

/-- A sender is marked, and a batch is asked for. -/
theorem marks_keep_dimension_of_a_sender :
    let es := [.rowsLoaded 1 (.ok [oneMessage "alice@example.com"]), .key (.char ' ')]
    let b := (session {} es).1
    b.view.level.isGrouped = true ∧ b.selection.dimension = b.view.dimension ∧
      Made {} (es ++ [.key (.char 'd')]) (.buildManifest b.stageRequest) ∧
      b.stageRequest.keys = ["alice@example.com"] ∧
      PickedSince {} (es ++ [.key (.char 'd')]) .senders "alice@example.com" := by
  intro es b
  have hm : Made {} (es ++ [.key (.char 'd')]) (.buildManifest b.stageRequest) :=
    .step (by decide +kernel)
  have hl : b.view.level.isGrouped = true := by decide +kernel
  have hk : b.stageRequest.keys = ["alice@example.com"] := by decide +kernel
  refine ⟨hl, (marks_keep_dimension {} es).1 hl, hm, hk, ?_⟩
  exact (marks_keep_dimension {} (es ++ [.key (.char 'd')])).2 _ hm _ (by rw [hk]; exact .head _)

/-- With nothing marked, `D` stages the row under the cursor: neither space nor `S` was pressed. -/
theorem staged_without_a_mark :
    ¬ ∀ (c : Config) (es : List Event) (r : StageRequest), Made c es (.buildManifest r) →
      ∀ key ∈ r.keys, ∃ before e after, es = before ++ e :: after ∧
        (e = .key (.char ' ') ∨ e = .key (.char 'S')) ∧
        (session c before).1.OnRows r.dimension ∧
        key ∈ (session c before).1.view.data.rows.map Row.key := by
  intro h
  let es : List Event := [.rowsLoaded 1 (.ok [oneMessage "alice@example.com"])]
  let r : StageRequest := ((session {} es).1.update (.key (.char 'D'))).1.stageRequest
  have hm : Made {} (es ++ [.key (.char 'D')]) (.buildManifest r) := .step (by decide +kernel)
  have hk : r.keys = ["alice@example.com"] := by decide +kernel
  obtain ⟨before, e, after, he, hs, -⟩ :=
    h {} _ r hm "alice@example.com" (by rw [hk]; exact .head _)
  have hmem : e ∈ es ++ [.key (.char 'D')] := by rw [he]; simp
  rcases hs with rfl | rfl <;> simp [es] at hmem

end Browser
end MailBrowser
