import LiveForm.Definition.Basic
import Mathlib.Data.List.Nodup

/-!
# Definitions that were checked

What `FormDefinition.check` guarantees of a definition that it accepts: no two fields share an
identifier, and the layout has no more levels than allowed. Which field an identifier stands for is
then the same from whichever end the fields are searched.
-/

namespace LiveForm

namespace FieldDefinition

variable {fields : List FieldDefinition}

/-- Where no two fields share an identifier, the field that is found is the one that has it. -/
theorem find?_eq_some_iff (hids : (fields.map id).Nodup) {fieldId : String}
    {field : FieldDefinition} :
    (fields.find? fun f => f.id == fieldId) = some field ↔ field ∈ fields ∧ field.id = fieldId := by
  constructor
  · intro hfind
    have hid := List.find?_some (p := fun f : FieldDefinition => f.id == fieldId) hfind
    exact ⟨List.mem_of_find?_eq_some hfind, beq_iff_eq.mp hid⟩
  · rintro ⟨hmem, hid⟩
    cases hfind : fields.find? fun f => f.id == fieldId with
    | none =>
      have hmissed := List.find?_eq_none.mp hfind field hmem
      exact absurd (beq_iff_eq.mpr hid) hmissed
    | some other =>
      have hother := List.find?_some (p := fun f : FieldDefinition => f.id == fieldId) hfind
      have hsame : other.id = field.id := (beq_iff_eq.mp hother).trans hid.symm
      rw [List.inj_on_of_nodup_map hids (List.mem_of_find?_eq_some hfind) hmem hsame]

/-- It is the same field from the last one on. -/
theorem find?_reverse (hids : (fields.map id).Nodup) (fieldId : String) :
    (fields.reverse.find? fun f => f.id == fieldId) = fields.find? fun f => f.id == fieldId := by
  have hreversed : (fields.reverse.map id).Nodup := by
    rw [List.map_reverse]
    exact List.nodup_reverse.mpr hids
  apply Option.ext
  intro field
  rw [find?_eq_some_iff hreversed, find?_eq_some_iff hids, List.mem_reverse]

end FieldDefinition

namespace FormDefinition

variable {d : FormDefinition}

theorem duplicateId?_go_eq_none {seen : List String} {fields : List FieldDefinition}
    (h : duplicateId?.go seen fields = none) :
    (fields.map FieldDefinition.id).Nodup ∧ ∀ f ∈ fields, f.id ∉ seen := by
  induction fields generalizing seen with
  | nil => exact ⟨List.nodup_nil, fun f hf => absurd hf List.not_mem_nil⟩
  | cons field rest ih =>
    by_cases hseen : seen.contains field.id = true
    · rw [duplicateId?.go, if_pos hseen] at h
      cases h
    · rw [duplicateId?.go, if_neg hseen] at h
      have hnew : field.id ∉ seen := fun hmem => hseen (List.contains_iff_mem.mpr hmem)
      obtain ⟨hnodup, hrest⟩ := ih h
      refine ⟨List.nodup_cons.mpr ⟨fun hmem => ?_, hnodup⟩, ?_⟩
      · obtain ⟨other, hother, heq⟩ := List.mem_map.mp hmem
        exact hrest other hother (heq ▸ List.mem_cons_self)
      · intro f hf
        rcases List.mem_cons.mp hf with rfl | hf
        · exact hnew
        · exact fun hseen => hrest f hf (List.mem_cons_of_mem _ hseen)

/-- In a definition that was checked no two fields share an identifier. -/
theorem nodup_of_check (h : d.check = .ok ()) :
    (d.fields.map FieldDefinition.id).Nodup := by
  unfold check at h
  split at h
  · cases h
  · rename_i hnone
    exact (duplicateId?_go_eq_none hnone).1

/-- A layout that was checked has no more levels than allowed. -/
theorem depth_le_of_check (h : d.check = .ok ()) : d.layout.depth ≤ maxLayoutDepth := by
  unfold check at h
  split at h
  · cases h
  · split at h
    · cases h
    · omega

end FormDefinition

end LiveForm
