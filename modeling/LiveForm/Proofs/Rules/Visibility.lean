import LiveForm.Proofs.Definition.Check
import LiveForm.Rules.Visibility

/-!
# The map of what is shown

Every field of a definition has an entry in the map. Where fields share an identifier the last of
them counts; where none do, the entries are exactly the fields, and two maps differ in the fields
that only one of them shows (`Differs`).
-/

namespace LiveForm

/-- What the map says of an identifier is whether the last field with it is shown. -/
theorem find?_visibilityMap (fields : List FieldDefinition) (data : Json) (id : String) :
    Keyed.find? (visibilityMap fields data) id =
      (fields.reverse.find? fun f => f.id == id).map fun f => f.isVisible data := by
  rw [visibilityMap, Keyed.find?_ofPairs, ← List.map_reverse, List.find?_map, Option.map_map]
  rfl

/-- The map has an entry for every field. -/
theorem exists_find?_visibilityMap {fields : List FieldDefinition} {f : FieldDefinition}
    (hf : f ∈ fields) (data : Json) :
    ∃ visible, Keyed.find? (visibilityMap fields data) f.id = some visible := by
  rw [find?_visibilityMap]
  cases hfind : fields.reverse.find? fun g => g.id == f.id with
  | some g => exact ⟨g.isVisible data, rfl⟩
  | none =>
    have hne := List.find?_eq_none.mp hfind f (List.mem_reverse.mpr hf)
    exact absurd (beq_self_eq_true f.id) hne

/-- Which identifiers the map has entries for does not depend on the data. -/
theorem isSome_find?_visibilityMap (fields : List FieldDefinition) (data other : Json)
    (id : String) :
    (Keyed.find? (visibilityMap fields data) id).isSome =
      (Keyed.find? (visibilityMap fields other) id).isSome := by
  rw [find?_visibilityMap, find?_visibilityMap, Option.isSome_map, Option.isSome_map]

/-- Where no two fields share an identifier, each has an entry that says whether it is shown. -/
theorem find?_visibilityMap_eq_some_iff {fields : List FieldDefinition}
    (hids : (fields.map FieldDefinition.id).Nodup) {data : Json} {id : String} {visible : Bool} :
    Keyed.find? (visibilityMap fields data) id = some visible ↔
      ∃ f ∈ fields, f.id = id ∧ f.isVisible data = visible := by
  rw [find?_visibilityMap, FieldDefinition.find?_reverse hids, Option.map_eq_some_iff]
  apply exists_congr
  intro f
  rw [FieldDefinition.find?_eq_some_iff hids, and_assoc]

theorem ordered_visibilityMap (fields : List FieldDefinition) (data : Json) :
    Keyed.Ordered (visibilityMap fields data) :=
  Keyed.ordered_ofPairs _

/-! ## Differences -/

/-- The fields that are shown with one data and hidden with the other, with what they are with the
second, in the order of their identifiers. -/
structure Differs (fields : List FieldDefinition) (before after : Json) (flipped : Keyed Bool) :
    Prop where
  ordered : flipped.Ordered
  mem_iff : ∀ id visible, (id, visible) ∈ flipped ↔
    ∃ f ∈ fields, f.id = id ∧ f.isVisible after = visible ∧ f.isVisible before ≠ visible

/-- Two maps of fields with identifiers of their own differ in the fields that are shown with one
data alone. A field without an entry would count as shown, but there is none. -/
theorem differs_visibilityMap {fields : List FieldDefinition}
    (hids : (fields.map FieldDefinition.id).Nodup) (before after : Json) :
    Differs fields before after ((visibilityMap fields after).filter fun entry =>
      (Keyed.find? (visibilityMap fields before) entry.1).getD true != entry.2) := by
  refine ⟨(ordered_visibilityMap fields after).filter _, ?_⟩
  intro id visible
  rw [List.mem_filter, Keyed.mem_iff_find? (ordered_visibilityMap fields after),
    find?_visibilityMap_eq_some_iff hids, bne_iff_ne]
  have hbefore {f : FieldDefinition} (hf : f ∈ fields) :
      Keyed.find? (visibilityMap fields before) f.id = some (f.isVisible before) :=
    (find?_visibilityMap_eq_some_iff hids).mpr ⟨f, hf, rfl, rfl⟩
  constructor
  · rintro ⟨⟨f, hf, rfl, hafter⟩, hne⟩
    rw [hbefore hf] at hne
    exact ⟨f, hf, rfl, hafter, hne⟩
  · rintro ⟨f, hf, rfl, hafter, hne⟩
    rw [hbefore hf]
    exact ⟨⟨f, hf, rfl, hafter⟩, hne⟩

end LiveForm
