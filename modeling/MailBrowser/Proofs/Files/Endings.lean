import MailBrowser.Files.Path
import MailBrowser.Proofs.Text.Numerals

/-!
# A name before and after its last dot

* `Path.cutAtDot_of_eq`   a name with a dot that is not at its head;
* `Path.cutAtDot_cases`   a name is cut there or stays whole.
-/

namespace MailBrowser
namespace Path

variable {name : String} {before after : List Char}

theorem exists_last_dot {cs : List Char} (h : '.' ∈ cs) :
    ∃ before after, cs = before ++ '.' :: after ∧ '.' ∉ after := by
  obtain ⟨as, bs, hcs, has⟩ := List.eq_append_cons_of_mem (List.mem_reverse.2 h)
  refine ⟨bs.reverse, as.reverse, ?_, fun hm => has (List.mem_reverse.1 hm)⟩
  rw [← List.reverse_reverse cs, hcs]
  simp

theorem takeWhile_reverse_of_last_dot (before : List Char) (ha : '.' ∉ after) :
    ((before ++ '.' :: after).reverse.takeWhile (· != '.')).reverse = after := by
  have hall : ∀ c ∈ after.reverse, (c != '.') = true := fun c hc =>
    bne_iff_ne.2 fun e => ha (e ▸ List.mem_reverse.1 hc)
  rw [List.reverse_append, List.reverse_cons, List.append_assoc,
    List.takeWhile_append_of_pos hall]
  simp

theorem cutAtDot_of_eq (h : name.toList = before ++ '.' :: after) (ha : '.' ∉ after)
    (hb : before ≠ []) (hne : name ≠ "..") :
    cutAtDot name = (.ofList before, some (.ofList after)) := by
  have htake : (before ++ '.' :: after).take
      ((before ++ '.' :: after).length - after.length - 1) = before := by
    refine List.take_left' ?_
    rw [List.length_append, List.length_cons]
    omega
  unfold cutAtDot
  simp only [h, takeWhile_reverse_of_last_dot before ha, htake]
  rw [if_neg]
  simp [hne, hb]

theorem cutAtDot_of_not_mem (h : '.' ∉ name.toList) : cutAtDot name = (name, none) := by
  unfold cutAtDot
  exact if_pos (.inr (.inl (by simpa using h)))

theorem cutAtDot_of_head (h : name.toList = '.' :: after) (ha : '.' ∉ after) :
    cutAtDot name = (name, none) := by
  have hr := takeWhile_reverse_of_last_dot [] ha
  rw [List.nil_append] at hr
  unfold cutAtDot
  simp only [h, hr]
  simp

/-- **A name is cut at its last dot, or stays whole and has nothing but dots before it.** -/
theorem cutAtDot_cases (name : String) :
    (cutAtDot name = (name, none) ∧ ∀ before after, name.toList = before ++ '.' :: after →
      '.' ∉ after → ∀ c ∈ before, c = '.') ∨
    ∃ before after, name.toList = before ++ '.' :: after ∧ '.' ∉ after ∧ before ≠ [] ∧
      cutAtDot name = (.ofList before, some (.ofList after)) := by
  by_cases hdot : '.' ∈ name.toList
  · obtain ⟨before, after, h, ha⟩ := exists_last_dot hdot
    by_cases hne : name = ".."
    · left
      subst hne
      refine ⟨by decide, fun b a hb _ c hc => ?_⟩
      have hall : ("..".toList.all fun c => c == '.') = true := by decide
      exact beq_iff_eq.1 (List.all_eq_true.1 hall c (hb ▸ List.mem_append_left _ hc))
    · cases before with
      | nil =>
        refine .inl ⟨cutAtDot_of_head h ha, fun b a hb ha' c hc => ?_⟩
        obtain ⟨rfl, -⟩ := Text.append_sep_inj (h.symm.trans hb) ha ha'
        cases hc
      | cons c before =>
        exact .inr ⟨c :: before, after, h, ha, List.cons_ne_nil _ _,
          cutAtDot_of_eq h ha (List.cons_ne_nil _ _) hne⟩
  · refine .inl ⟨cutAtDot_of_not_mem hdot, fun b a hb _ => ?_⟩
    exact absurd (hb ▸ List.mem_append_right b List.mem_cons_self) hdot

end Path
end MailBrowser
