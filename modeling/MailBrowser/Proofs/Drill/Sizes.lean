import MailBrowser.Proofs.Calendar.Periods
import MailBrowser.Proofs.Drill.Origins

/-!
# The sizes of periods

A period is held with its size, and one that is not of that size holds no message.  Rows of periods
stay on screen, and marks stay marked, while the size in force goes on to the next.  What is
entered or staged then is taken with the new size, whichever it was asked for with.

* `Granularity.Formats`   a text is a period of a size; it is of no other;
* `Dated`             rows of periods came in the size that they were asked for with;
* `Sized`             a key that came as a period is of a size, unless that was changed since its
  rows were asked for;
* `InUse`             the filters of a session: on screen, on the way back, and in requests;
* `periods_sized`     the periods of all filters, and the keys of all batches, are so.
-/

namespace MailBrowser

/-- Some moment is in the period. -/
def Granularity.Formats (g : Granularity) (key : String) : Prop := ∃ t : Instant, g.period t = key

theorem Granularity.Formats.eq {g g' : Granularity} {key : String} (h : g.Formats key)
    (h' : g'.Formats key) : g = g' := by
  obtain ⟨t, ht⟩ := h
  obtain ⟨t', ht'⟩ := h'
  by_contra hne
  exact period_ne hne t t' (ht.trans ht'.symm)

namespace Browser

def Dated (c : Config) (es : List Event) : Prop :=
  ∀ asked before e after id f o, es = before ++ e :: after → asked <+: before →
    Made c asked (.loadRows id .time f o) → Outcome (.loadRows id .time f o) e →
    ∀ row ∈ e.rows, o.granularity.Formats row.key

/-- The key came with rows that were shown.  Where these were asked for as periods, it is of the
size, unless the size in force has been changed since.  Where they were asked for in another
dimension, and shown where periods should be, nothing is said of its form. -/
structure Sized (c : Config) (es : List Event) (g : Granularity) (key : String) : Prop where
  came : ∃ asked d, Came c asked es d key
  size : ∀ asked, Came c asked es .time key → g.Formats key ∨ Resized c asked es

inductive InUse (c : Config) (es : List Event) : Filter → Prop where
  | view : InUse c es (session c es).1.view.filter
  | crumb {crumb : Crumb} (h : crumb ∈ (session c es).1.crumbs) : InUse c es crumb.view.filter
  | request {x : Effect} {f : Filter} (h : Made c es x) (hf : x.filter? = some f) : InUse c es f

variable {c : Config} {es fs : List Event} {key : String}

theorem Dated.of_append (h : Dated c (es ++ fs)) : Dated c es := by
  rintro asked before e after id f o rfl hp hm ho
  exact h asked before e (after ++ fs) id f o (by simp) hp hm ho

theorem Dated.sized (h : Dated c es) (hc : ∃ asked d, Came c asked es d key) :
    Sized c es (session c es).1.view.granularity key := by
  refine ⟨hc, fun asked ⟨before, e, after, n, f, o, hes, hp, hm, ho, hs, hk⟩ => ?_⟩
  obtain ⟨row, hr, rfl⟩ := List.mem_map.1 hk
  refine (eq_or_resized (hp.trans ⟨_, hes.symm⟩)).imp (fun hsame => ?_) id
  rw [hsame, ← hm.size]
  exact h asked before e after n f o hes hp hm ho row hr

theorem InUse.period {f : Filter} (h : InUse c es f) {p : Period} (hp : f.period = some p) :
    some p ∈ (session c es).1.periods := by
  cases h with
  | view => exact hp ▸ List.mem_cons_self
  | crumb h => exact hp ▸ List.mem_cons_of_mem _ (List.mem_map_of_mem h)
  | request h hf => exact h.period hf hp

/-- **Where rows of periods come as they were asked for, every period that is held to was the row
under the cursor when it was entered, and has the size that was in force then.  The keys of a batch
were those of rows on screen, and are taken with the size in force.  Each that came as a period is of
its size, unless the size in force was changed since its row was asked for.**  Keys that came with
rows of another dimension are left out. -/
theorem periods_sized (c : Config) (es : List Event) (hd : Dated c es) :
    (∀ f p, InUse c es f → f.period = some p → ∃ before e after, es = before ++ e :: after ∧
      (session c before).1.Enters ((session c before).1.update e) p ∧
      Sized c before p.granularity p.text) ∧
    ∀ r, Made c es (.buildManifest r) → r.granularity = (session c es).1.view.granularity ∧
      ∀ key ∈ r.keys, Sized c es r.granularity key := by
  constructor
  · intro f p hf hp
    obtain ⟨before, e, after, rfl, hentered⟩ := exists_enters c es (hf.period hp)
    refine ⟨before, e, after, rfl, hentered, ?_⟩
    obtain ⟨row, hr, hk⟩ := hentered.row
    rw [hentered.granularity, ← hk]
    exact hd.of_append.sized (exists_came_of_row c before (List.mem_of_getElem? hr))
  · intro r hr
    rw [hr.batch]
    exact ⟨rfl, fun key hk => hd.sized (exists_came_of_mark c es hk)⟩

/-! ## rows of one moment -/

/-- If the effect asks for periods and this is its answer, the answer has no period but that of the
moment. -/
def datedAt (t : Instant) : Effect → Event → Bool
  | .loadRows id .time _ o, .rowsLoaded id' (.ok rows) =>
    id != id' || rows.all fun row => row.key = o.granularity.period t
  | _, _ => true

theorem dated_of_datedAt (t : Instant) (h : ∀ n (hn : n < es.length),
    ∀ x ∈ (session c (es.take n)).2, datedAt t x es[n] = true) : Dated c es := by
  rintro asked before e after id f o rfl hp hm ho row hr
  have hn : before.length < (before ++ e :: after).length := by simp
  have hx := h before.length hn
  rw [List.getElem_append_right (Nat.le_refl _)] at hx
  simp only [Nat.sub_self, List.getElem_cons_zero, List.take_left] at hx
  have hd := hx _ (mem_effects_iff.2 ⟨asked, hp, hm⟩)
  cases ho with
  | rows id d f o r =>
    cases r with
    | error q => cases hr
    | ok rows =>
      simp only [datedAt, bne_self_eq_false, Bool.false_or, List.all_eq_true,
        decide_eq_true_eq] at hd
      exact ⟨t, (hd row hr).symm⟩

/-- The first month of all is on screen. -/
def oneMonth : List Event := [.key (.char 't'), .rowsLoaded 2 (.ok [{ key := "1970-01" }])]

theorem periods_sized_of_one_month :
    let entered := oneMonth ++ [.key .enter]
    let staged := oneMonth ++ [.key (.char ' '), .key (.char 'd')]
    (Dated {} entered ∧ ∃ before e after, entered = before ++ e :: after ∧
      (session {} before).1.Enters ((session {} before).1.update e) ⟨"1970-01", .month⟩ ∧
      Sized {} before .month "1970-01") ∧
    Dated {} staged ∧ Sized {} staged .month "1970-01" := by
  intro entered staged
  have he : Dated {} entered := dated_of_datedAt .epoch (by decide +kernel)
  have hs : Dated {} staged := dated_of_datedAt .epoch (by decide +kernel)
  refine ⟨⟨he, (periods_sized {} entered he).1 _ _ .view (by decide +kernel)⟩, hs, ?_⟩
  have hm : Made {} (oneMonth ++ [.key (.char ' ')] ++ [.key (.char 'd')])
      (.buildManifest (session {} staged).1.stageRequest) := .step (by decide +kernel)
  exact ((periods_sized {} staged hs).2 _ hm).2 "1970-01" (by decide +kernel)

/-- A month is marked, and staged when the rows are days.  A month is entered as a day while the
days have not come yet. -/
theorem periods_of_another_size :
    (¬ ∀ (c : Config) (es : List Event), Dated c es → ∀ r, Made c es (.buildManifest r) →
      r.dimension = .time → ∀ key ∈ r.keys, r.granularity.Formats key) ∧
    ¬ ∀ (c : Config) (es : List Event), Dated c es → ∀ f p, InUse c es f → f.period = some p →
      p.granularity.Formats p.text := by
  have hmonth : Granularity.month.Formats "1970-01" := ⟨.epoch, by decide +kernel⟩
  have hday : ¬ Granularity.day.Formats "1970-01" := fun h => by cases h.eq hmonth
  constructor
  · intro h
    let marked := oneMonth ++ [.key (.char ' '), .key (.char 't'),
      .rowsLoaded 3 (.ok [{ key := "1970-01-01" }])]
    have hd : Dated {} (marked ++ [.key (.char 'd')]) :=
      dated_of_datedAt .epoch (by decide +kernel)
    have hm : Made {} (marked ++ [.key (.char 'd')])
        (.buildManifest (session {} (marked ++ [.key (.char 'd')])).1.stageRequest) :=
      .step (by decide +kernel)
    exact hday (h {} _ hd _ hm (by decide +kernel) "1970-01" (by decide +kernel))
  · intro h
    have hd : Dated {} (oneMonth ++ [.key (.char 't'), .key .enter]) :=
      dated_of_datedAt .epoch (by decide +kernel)
    exact hday (h {} _ hd _ ⟨"1970-01", .day⟩ .view (by decide +kernel))

end Browser
end MailBrowser
