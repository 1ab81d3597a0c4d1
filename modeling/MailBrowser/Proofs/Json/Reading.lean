import MailBrowser.Json.Encode
import MailBrowser.Json.Decode
import MailBrowser.Proofs.Json.Tokens

/-!
# Reading what was printed

* `Json.reads_value`     the tokens of a value are read as the value;
* `Json.read?_pretty`    the text of a plain value is read as the value;
* `Json.plain_obj`, `Json.plain_texts`   records and lists that are plain.
-/

namespace MailBrowser
namespace Json

/-! ## values -/

/-- the tokens of a value, where a value must come, are read as the value -/
def Reads (v : Json) : Prop :=
  ∀ st, (tokensOf v).foldlM Reader.step (.value st) = some (.have_ v st)

theorem Reads.append {v : Json} (h : Reads v) (ts : List Token) (st : List Frame) :
    (tokensOf v ++ ts).foldlM Reader.step (.value st) = ts.foldlM Reader.step (.have_ v st) := by
  rw [List.foldlM_append, h st]
  rfl

/-- The tokens of a value start one, also where a list could end. -/
theorem tokensOf_start (v : Json) (st : List Frame) :
    ∃ t ts, tokensOf v = t :: ts ∧
      Reader.step (.item st) t = Reader.step (.value (.items [] :: st)) t := by
  cases v with
  | list vs => exact ⟨_, _, rfl, rfl⟩
  | record fs => exact ⟨_, _, rfl, rfl⟩
  | null | bool | int | real | str => exact ⟨_, _, rfl, rfl⟩

theorem itemTokens_start {vs : List Json} (hne : vs ≠ []) (ts : List Token) (st : List Frame) :
    (itemTokens vs ++ ts).foldlM Reader.step (.item st) =
      (itemTokens vs ++ ts).foldlM Reader.step (.value (.items [] :: st)) := by
  have hstart : ∀ v r, (tokensOf v ++ r).foldlM Reader.step (.item st) =
      (tokensOf v ++ r).foldlM Reader.step (.value (.items [] :: st)) := by
    intro v r
    obtain ⟨t, ts, ht, hs⟩ := tokensOf_start v st
    rw [ht, List.cons_append, List.foldlM_cons, List.foldlM_cons, hs]
  match vs with
  | [] => exact absurd rfl hne
  | [v] => exact hstart v ts
  | v :: w :: vs =>
    simp only [itemTokens, List.append_assoc]
    exact hstart v _

theorem reads_items {vs : List Json} (hv : ∀ v ∈ vs, Reads v) (hne : vs ≠ []) (done : List Json)
    (st : List Frame) :
    (itemTokens vs ++ [Token.closeList]).foldlM Reader.step (.value (.items done :: st)) =
      some (.have_ (.list (done.reverse ++ vs)) st) := by
  induction vs generalizing done with
  | nil => exact absurd rfl hne
  | cons v vs ih =>
    have hread := hv v List.mem_cons_self
    cases vs with
    | nil =>
      rw [itemTokens, hread.append, ← List.reverse_cons]
      rfl
    | cons w vs =>
      have hrest := ih (fun v h => hv v (List.mem_cons_of_mem _ h)) (by simp) (v :: done)
      rw [itemTokens, List.append_assoc, hread.append]
      · rw [List.reverse_cons, List.append_assoc] at hrest
        exact hrest
      · simp

theorem reads_fields {fs : List (Literal × Json)} (hv : ∀ f ∈ fs, Reads f.2) (hne : fs ≠ [])
    (done : List (Literal × Json)) (st : List Frame) :
    (fieldTokens fs ++ [Token.closeRec]).foldlM Reader.step (.nextName done st) =
      some (.have_ (.record (done.reverse ++ fs)) st) := by
  induction fs generalizing done with
  | nil => exact absurd rfl hne
  | cons f fs ih =>
    obtain ⟨k, v⟩ := f
    have hread : Reads v := hv (k, v) List.mem_cons_self
    have hfield : ∀ ts, (.leaf (.str k) :: .colon :: (tokensOf v ++ ts)).foldlM Reader.step
        (.nextName done st) = ts.foldlM Reader.step (.have_ v (.fields done k :: st)) :=
      fun ts => hread.append ts (.fields done k :: st)
    cases fs with
    | nil =>
      refine (hfield [.closeRec]).trans ?_
      rw [← List.reverse_cons]
      rfl
    | cons g fs =>
      have hrest := ih (fun f h => hv f (List.mem_cons_of_mem _ h)) (by simp) ((k, v) :: done)
      rw [List.reverse_cons, List.append_assoc] at hrest
      rw [fieldTokens, List.append_assoc]
      · exact (hfield _).trans hrest
      · simp

/-- A record that has been opened is read as one in which a name must come. -/
theorem fieldTokens_start {fs : List (Literal × Json)} (hne : fs ≠ []) (ts : List Token)
    (st : List Frame) :
    (fieldTokens fs ++ ts).foldlM Reader.step (.name st) =
      (fieldTokens fs ++ ts).foldlM Reader.step (.nextName [] st) := by
  match fs with
  | [] => exact absurd rfl hne
  | [(k, v)] => rfl
  | (k, v) :: g :: fs => rfl

theorem reads_value {v : Json} (h : Plain v) : Reads v := by
  induction h with
  | null | bool | int | text => exact fun _ => rfl
  | @list vs _ ih =>
    intro st
    cases vs with
    | nil => rfl
    | cons v vs =>
      have h := reads_items ih (by simp) [] st
      rw [← itemTokens_start (by simp)] at h
      exact h
  | @record fs _ _ ih =>
    intro st
    cases fs with
    | nil => rfl
    | cons f fs =>
      have h := reads_fields ih (by simp) [] st
      rw [← fieldTokens_start (by simp)] at h
      exact h

/-- **The text of a plain value is read as the value.** -/
theorem read?_pretty {v : Json} (h : Plain v) : read? v.pretty = some v := by
  unfold read? ofTokens?
  rw [tokens?_pretty h, Option.bind_some, reads_value h []]

/-! ## fields -/

theorem plain_texts (ss : List String) : Plain (enc ss) :=
  .list fun v hv => by
    obtain ⟨s, -, rfl⟩ := List.mem_map.1 hv
    exact .text s

theorem plain_obj {fs : List (String × Json)} (h : ∀ f ∈ fs, Plain f.2) : Plain (.obj fs) := by
  refine .record (fun f hf => ?_) fun f hf => ?_
  · obtain ⟨g, -, rfl⟩ := List.mem_map.1 hf
    rfl
  · obtain ⟨g, hg, rfl⟩ := List.mem_map.1 hf
    exact h g hg

theorem toList?_texts (ss : List String) : toList? toText? (enc ss) = some ss := by
  show (ss.map text).mapM toText? = some ss
  induction ss with
  | nil => rfl
  | cons s ss ih =>
    rw [List.map_cons, List.mapM_cons, ih]
    rfl

end Json
end MailBrowser
