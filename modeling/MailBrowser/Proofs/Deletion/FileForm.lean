import MailBrowser.Deletion.Manifest
import MailBrowser.Proofs.Calendar.Reading
import MailBrowser.Proofs.Json.Reading

/-!
# The file form of manifests

A manifest is read from its file form as it was: what is left out where it is empty comes back
empty, and an empty text does not come back as none.

* `Criteria.ofJson?_toJson`, `Manifest.ofJson?_toJson`   the file form as a value;
* `Manifest.read?_text`                                  the text of the file.
-/

namespace MailBrowser
open Json (put valuesOf slot? slots? need orElse Plain)

/-! ## fields that may be left out -/

namespace Json

theorem slots?_obj (names : List String) (fs : List (String × Json)) :
    slots? names (.obj fs) = names.mapM (slot? (fs.map fun f => (some f.1, f.2))) := by
  have hk : ((fs.map fun f => ((some f.1 : Literal), f.2)).any fun f => f.1.isNone) = false := by
    simp
  unfold obj slots?
  dsimp only
  rw [hk]
  rfl

theorem need_some {α : Type} (read : Json → Option α) (v : Json) :
    need read (some v) = read v := rfl

/-- One slot more, for a field that does not come twice. -/
theorem mapM_slot?_cons {fs : List (Literal × Json)} {name : String} {v : Option Json}
    {names : List String} {vs : List (Option Json)} (h : valuesOf name fs = v.toList)
    (hs : names.mapM (slot? fs) = some vs) : (name :: names).mapM (slot? fs) = some (v :: vs) := by
  have hslot : slot? fs name = some v := by
    unfold slot?
    rw [h]
    cases v <;> rfl
  rw [List.mapM_cons, hslot, hs]
  rfl

theorem valuesOf_append (name : String) (fs fs' : List (Literal × Json)) :
    valuesOf name (fs ++ fs') = valuesOf name fs ++ valuesOf name fs' := by
  simp [valuesOf]

end Json

namespace Manifest

/-- the values that a field has in a file -/
theorem valuesOf_listField (name name' : String) (ss : List String) :
    valuesOf name ((listField name' ss).map fun f => (some f.1, f.2)) =
      if name' = name then (if ss.isEmpty then none else some (enc ss)).toList else [] := by
  unfold listField
  cases ss.isEmpty with
  | true => simp [valuesOf]
  | false => by_cases h : name' = name <;> simp [valuesOf, put, h]

theorem valuesOf_optionField (name name' : String) (s : Option String) :
    valuesOf name ((optionField name' s).map fun f => (some f.1, f.2)) =
      if name' = name then (s.map enc).toList else [] := by
  unfold optionField
  cases s with
  | none => simp [valuesOf]
  | some s => by_cases h : name' = name <;> simp [valuesOf, put, h]

theorem orElse_listField (ss : List String) :
    orElse [] (Json.toList? Json.toText?) (if ss.isEmpty then none else some (enc ss)) =
      some ss := by
  cases ss with
  | nil => rfl
  | cons s ss => exact Json.toList?_texts (s :: ss)

theorem orElse_optionField (s : Option String) :
    orElse none (Json.toOption? Json.toText?) (s.map enc) = some s := by
  cases s <;> rfl

theorem plain_listField {name : String} {ss : List String} :
    ∀ f ∈ listField name ss, Plain f.2 := by
  intro f hf
  unfold listField at hf
  split at hf
  · cases hf
  · rw [List.mem_singleton.1 hf]
    exact Json.plain_texts ss

theorem plain_optionField {name : String} {s : Option String} :
    ∀ f ∈ optionField name s, Plain f.2 := by
  intro f hf
  obtain ⟨s, -, rfl⟩ := List.mem_map.1 hf
  exact .text s

end Manifest

namespace Criteria

theorem ofJson?_toJson (c : Criteria) : ofJson? c.toJson = some c := by
  have hslots : c.toJson.slots? ["senders", "sender_domains", "recipients", "labels", "after",
      "before", "account"] = some [
        if c.senders.isEmpty then none else some (enc c.senders),
        if c.senderDomains.isEmpty then none else some (enc c.senderDomains),
        if c.recipients.isEmpty then none else some (enc c.recipients),
        if c.labels.isEmpty then none else some (enc c.labels),
        c.after.map enc, c.before.map enc, c.account.map enc] := by
    unfold toJson
    rw [Json.slots?_obj]
    refine Json.mapM_slot?_cons ?_ <| Json.mapM_slot?_cons ?_ <| Json.mapM_slot?_cons ?_ <|
      Json.mapM_slot?_cons ?_ <| Json.mapM_slot?_cons ?_ <| Json.mapM_slot?_cons ?_ <|
      Json.mapM_slot?_cons ?_ <| rfl
    all_goals simp [Json.valuesOf_append, Manifest.valuesOf_listField,
      Manifest.valuesOf_optionField]
  unfold ofJson?
  rw [hslots]
  simp only [Manifest.orElse_listField, Manifest.orElse_optionField, Option.bind_eq_bind,
    Option.bind_some]

theorem plain_toJson (c : Criteria) : Plain c.toJson := by
  refine Json.plain_obj fun f hf => ?_
  simp only [List.mem_append] at hf
  rcases hf with (((((hf | hf) | hf) | hf) | hf) | hf) | hf
  · exact Manifest.plain_listField f hf
  · exact Manifest.plain_listField f hf
  · exact Manifest.plain_listField f hf
  · exact Manifest.plain_listField f hf
  · exact Manifest.plain_optionField f hf
  · exact Manifest.plain_optionField f hf
  · exact Manifest.plain_optionField f hf

end Criteria

theorem Instant.ofJson?_enc (t : Instant) : Instant.ofJson? (enc t) = some t := by
  show (some t.written).bind Instant.read? = some t
  rw [Option.bind_some, t.read?_written]

theorem BatchStatus.ofJson?_name (s : BatchStatus) : BatchStatus.ofJson? (enc s.name) = some s := by
  cases s <;> decide

namespace Manifest

theorem ofJson?_toJson {m : Manifest} (hv : 0 ≤ m.version ∧ m.version ≤ versionLimit) :
    ofJson? m.toJson = some m := by
  have hslots : m.toJson.slots? ["version", "id", "created_at", "created_by", "description",
      "filters", "gmail_ids", "status"] = some [some (enc m.version), some (enc m.id),
        some (enc m.createdAt), some (enc m.createdBy), some (enc m.description),
        some m.criteria.toJson, some (enc m.providerIds), some (enc m.status.name)] := rfl
  have hversion : Json.toIntIn? 0 versionLimit (enc m.version) = some m.version := if_pos hv
  have htext : ∀ s : String, Json.toText? (enc s) = some s := fun _ => rfl
  unfold ofJson?
  rw [hslots]
  simp only [Json.need_some, hversion, htext, m.createdAt.ofJson?_enc, m.criteria.ofJson?_toJson,
    Json.toList?_texts, m.status.ofJson?_name, Option.bind_eq_bind, Option.bind_some]

theorem plain_toJson (m : Manifest) : Plain m.toJson := by
  refine Json.plain_obj fun f hf => ?_
  simp only [List.mem_cons, List.not_mem_nil, or_false] at hf
  rcases hf with rfl | rfl | rfl | rfl | rfl | rfl | rfl | rfl
  · exact .int m.version
  · exact .text m.id
  · exact .text m.createdAt.written
  · exact .text m.createdBy
  · exact .text m.description
  · exact m.criteria.plain_toJson
  · exact Json.plain_texts m.providerIds
  · exact .text m.status.name

/-- **The text of a manifest is read as the manifest.** -/
theorem read?_text {m : Manifest} (hv : 0 ≤ m.version ∧ m.version ≤ versionLimit) :
    read? m.text = some m := by
  unfold read? text
  rw [Json.read?_pretty m.plain_toJson]
  exact ofJson?_toJson hv

end Manifest
end MailBrowser
