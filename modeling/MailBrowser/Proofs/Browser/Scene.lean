import MailBrowser.Proofs.Browser.Ending

/-!
# Steps that stay

Most steps stay where they are: they move a cursor, mark a row, open a dialog or show a notice,
and leave alone what the view is about, what it holds, and the way back.

* `View.outline`    what a view is about, without what it holds and where one looks;
* `SamePlace`       two browsers at the same view, with the same way back;
* `SameScene`       moreover the view holds the same;
* `Quiet`           moreover with the same books;
* `QuietEnding`     the ways to end that load nothing new, but for a page more of a search;
* `Quietly`         a step that ends so after nothing but quiet changes.
-/

namespace MailBrowser

/-- The query is blank: it is compared only where a list can be searched. -/
def View.outline (v : View) : View :=
  { v with
    window := {}, totals := none, query := "", readingIndex := 0, readingScroll := 0
    pendingSubject := "", find := {}, threadWindow := {}, threadCut := false, data := {} }

def Dialog.isScope : Dialog → Bool
  | .attachmentScope _ => true
  | _ => false

theorem View.of_outline {α : Type} {v w : View} (f : View → α) (hf : ∀ u, f u.outline = f u)
    (h : w.outline = v.outline) : f w = f v := by
  rw [← hf w, h, hf v]

theorem View.readingList_eq {v w : View} (ho : w.outline = v.outline) (hd : w.data = v.data) :
    w.readingList = v.readingList := by
  have hf := View.of_outline View.readingFromThread (fun _ => rfl) ho
  unfold View.readingList
  rw [hf, hd]

namespace Browser

def asksScope (b : Browser) : Bool := (b.dialog.map Dialog.isScope).getD false

structure SamePlace (b c : Browser) : Prop where
  crumbs : c.crumbs = b.crumbs
  account : c.account = b.account
  attachmentsOnly : c.attachmentsOnly = b.attachmentsOnly
  outline : c.view.outline = b.view.outline
  query : b.view.level.isListed = true → c.view.query = b.view.query
  mode : c.search.mode = b.search.mode
  snapshot : c.search.snapshot = b.search.snapshot
  active : c.search.active = b.search.active
  asksScope : c.asksScope = true →
    b.asksScope = true ∨ (b.search.active = false ∧ b.view.level.isListed = true)
  /-- Marks may have been made in the view. -/
  tag : c.selection.dimension = b.selection.dimension ∨
    c.selection.dimension = b.view.dimension

structure SameScene (b c : Browser) : Prop extends SamePlace b c where
  data : c.view.data = b.view.data
  /-- a place in the list stays; a place past its end may be moved into it -/
  reading : b.view.readingIndex < b.view.readingList.length →
    c.view.readingIndex = b.view.readingIndex
  loading : b.loading = true → c.loading = true

structure Quiet (b c : Browser) : Prop extends SameBooks b c, SameScene b c

inductive QuietEnding (b : Browser) : Step → Prop where
  | nothing : QuietEnding b b.still
  | notice (text : String) : QuietEnding b (b.notify text)
  | other (x : Effect) (hx : x.stamp? = none) (hn : x.isExpiry = false) : QuietEnding b (b, [x])
  | page (offset : Nat) (hl : b.view.level = .list) (hq : b.view.query.isEmpty = false) :
      QuietEnding b (b.searchFrom offset true)

def Quietly (b : Browser) (s : Step) : Prop := ∃ c, QuietEnding c s ∧ Quiet b c

namespace SamePlace

variable {b c d : Browser}

theorem level (h : SamePlace b c) : c.view.level = b.view.level :=
  View.of_outline View.level (fun _ => rfl) h.outline

theorem filter (h : SamePlace b c) : c.view.filter = b.view.filter :=
  View.of_outline View.filter (fun _ => rfl) h.outline

theorem dimension (h : SamePlace b c) : c.view.dimension = b.view.dimension :=
  View.of_outline View.dimension (fun _ => rfl) h.outline

theorem of_parts
    (h : (c.crumbs, c.account, c.attachmentsOnly, c.view.outline, c.view.query, c.search.mode,
        c.search.snapshot, c.search.active, c.asksScope, c.selection.dimension) =
      (b.crumbs, b.account, b.attachmentsOnly, b.view.outline, b.view.query, b.search.mode,
        b.search.snapshot, b.search.active, b.asksScope, b.selection.dimension)) :
    SamePlace b c := by
  simp only [Prod.mk.injEq] at h
  obtain ⟨hc, ha, hs, ho, hq, hm, hn, hl, hd, ht⟩ := h
  exact ⟨hc, ha, hs, ho, fun _ => hq, hm, hn, hl, fun h => .inl (hd.symm.trans h), .inl ht⟩

theorem refl (b : Browser) : SamePlace b b := .of_parts rfl

theorem trans (h : SamePlace b c) (k : SamePlace c d) : SamePlace b d where
  crumbs := k.crumbs.trans h.crumbs
  account := k.account.trans h.account
  attachmentsOnly := k.attachmentsOnly.trans h.attachmentsOnly
  outline := k.outline.trans h.outline
  query hl := (k.query (by rw [h.level]; exact hl)).trans (h.query hl)
  mode := k.mode.trans h.mode
  snapshot := k.snapshot.trans h.snapshot
  active := k.active.trans h.active
  asksScope hd := by
    rcases k.asksScope hd with hc | ⟨ha, hl⟩
    · exact h.asksScope hc
    · rw [h.active] at ha
      rw [h.level] at hl
      exact .inr ⟨ha, hl⟩
  tag := by
    rcases k.tag with ht | ht
    · rw [ht]
      exact h.tag
    · exact .inr (ht.trans h.dimension)

end SamePlace

namespace SameScene

variable {b c d : Browser}

theorem refl (b : Browser) : SameScene b b := ⟨.refl b, rfl, fun _ => rfl, id⟩

theorem readingList (h : SameScene b c) : c.view.readingList = b.view.readingList :=
  View.readingList_eq h.outline h.data

theorem trans (h : SameScene b c) (k : SameScene c d) : SameScene b d where
  toSamePlace := h.toSamePlace.trans k.toSamePlace
  data := k.data.trans h.data
  reading hr := by
    have hc := h.reading hr
    exact (k.reading (by rw [h.readingList, hc]; exact hr)).trans hc
  loading hl := k.loading (h.loading hl)

end SameScene

namespace Quiet

variable {b c d : Browser}

theorem refl (b : Browser) : Quiet b b := ⟨.refl b, .refl b⟩

theorem trans (h : Quiet b c) (k : Quiet c d) : Quiet b d :=
  ⟨h.toSameBooks.trans k.toSameBooks, h.toSameScene.trans k.toSameScene⟩

/-- a change that leaves the view alone -/
theorem of_core {b c : Browser}
    (h : (c.ledger, c.flashGeneration, c.flash, c.view, c.crumbs, c.account, c.attachmentsOnly,
        c.search, c.loading) = (b.ledger, b.flashGeneration, b.flash, b.view, b.crumbs, b.account,
        b.attachmentsOnly, b.search, b.loading))
    (hd : c.asksScope = true →
      b.asksScope = true ∨ (b.search.active = false ∧ b.view.level.isListed = true))
    (ht : c.selection.dimension = b.selection.dimension ∨
      c.selection.dimension = b.view.dimension) : Quiet b c := by
  simp only [Prod.mk.injEq] at h
  obtain ⟨hl, hg, hf, hv, hc, ha, hs, hq, hw⟩ := h
  refine ⟨⟨hl, hg, .inl hf⟩,
    ⟨⟨hc, ha, hs, ?_, fun _ => ?_, ?_, ?_, ?_, hd, ht⟩, ?_, fun _ => ?_, ?_⟩⟩
  · rw [hv]
  · rw [hv]
  · rw [hq]
  · rw [hq]
  · rw [hq]
  · rw [hv]
  · rw [hv]
  · rw [hw]; exact id

/-- changes that a step may make anywhere: work, errors, sizes, totals of the scope -/
theorem of_rest {b c : Browser}
    (h : (c.ledger, c.flashGeneration, c.flash, c.view, c.crumbs, c.account, c.attachmentsOnly,
        c.search, c.loading) = (b.ledger, b.flashGeneration, b.flash, b.view, b.crumbs, b.account,
        b.attachmentsOnly, b.search, b.loading))
    (hd : c.asksScope = true → b.asksScope = true)
    (ht : c.selection.dimension = b.selection.dimension) : Quiet b c :=
  .of_core h (fun hc => .inl (hd hc)) (.inl ht)

theorem withView (b : Browser) {v : View} (ho : v.outline = b.view.outline)
    (hq : v.query = b.view.query) (hd : v.data = b.view.data)
    (hi : v.readingIndex = b.view.readingIndex) : Quiet b (b.withView v) :=
  ⟨⟨rfl, rfl, .inl rfl⟩, ⟨⟨rfl, rfl, rfl, ho, fun _ => hq, rfl, rfl, rfl, .inl, .inl rfl⟩, hd,
    fun _ => hi, id⟩⟩

end Quiet

theorem Quietly.after {b c : Browser} {s : Step} (hs : Quietly c s) (h : Quiet b c) :
    Quietly b s := by
  obtain ⟨d, he, hd⟩ := hs
  exact ⟨d, he, h.trans hd⟩

theorem quietly_still {b c : Browser} (h : Quiet b c) : Quietly b c.still := ⟨c, .nothing, h⟩

theorem QuietEnding.ending {b : Browser} {s : Step} (h : QuietEnding b s) : Ending b s := by
  cases h with
  | nothing => exact .nothing
  | notice text => exact .notice text
  | other x hx hn => exact .other x hx hn
  | page offset hl hq => exact .search offset true

/-- No way to end goes elsewhere. -/
theorem Ending.samePlace {b : Browser} {s : Step} (h : Ending b s) : SamePlace b s.1 := by
  have hb : SamePlace b b := .refl b
  cases h with
  | nothing => exact hb
  | other x hx hn => exact hb
  | search offset append =>
    cases append <;> exact .of_parts rfl
  | _ => exact .of_parts rfl

theorem Ending.sameScene {b : Browser} {s : Step} (h : Ending b s) : SameScene b s.1 := by
  have hp := h.samePlace
  cases h with
  | nothing => exact ⟨hp, rfl, fun _ => rfl, id⟩
  | notice text => exact ⟨hp, rfl, fun _ => rfl, id⟩
  | other x hx hn => exact ⟨hp, rfl, fun _ => rfl, id⟩
  | search offset append => exact ⟨hp, rfl, fun _ => rfl, id⟩
  | _ => exact ⟨hp, rfl, fun _ => rfl, fun _ => rfl⟩

theorem Quietly.ends {b : Browser} {s : Step} (h : Quietly b s) : Ends b s := by
  obtain ⟨c, he, hc⟩ := h
  exact ⟨c, he.ending, hc.toSameBooks⟩

theorem Quietly.sameScene {b : Browser} {s : Step} (h : Quietly b s) : SameScene b s.1 := by
  obtain ⟨c, he, hc⟩ := h
  exact hc.toSameScene.trans he.ending.sameScene

end Browser
end MailBrowser
