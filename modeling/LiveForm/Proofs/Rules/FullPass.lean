import LiveForm.Proofs.Definition.Check
import LiveForm.Proofs.Rules.Memory
import Mathlib.Data.List.Basic

/-!
# One field and all of them

A full pass validates fields one after the other and keeps what is wrong by their names. Where no
two of them share an identifier, a validation of one field does not change what is said of another,
and said again it is the same: the pass says of each field what a validation of this field alone
says (`Validator.complaint`). Fields may share a name; then the last complaint counts.
-/

namespace LiveForm

namespace FormDefinition

/-- The fields with a name. -/
def fieldsNamed (d : FormDefinition) (name : String) : List FieldDefinition :=
  d.fields.filter fun f => f.name == name

theorem fieldNamed?_eq (d : FormDefinition) (name : String) :
    d.fieldNamed? name = (d.fieldsNamed name).head? :=
  List.head?_filter.symm

theorem name_of_fieldNamed? {d : FormDefinition} {name : String} {field : FieldDefinition}
    (h : d.fieldNamed? name = some field) : field.name = name :=
  beq_iff_eq.mp (List.find?_some (p := fun f : FieldDefinition => f.name == name) h)

end FormDefinition

namespace Validator

/-- What is wrong with the value that the data have for a field. -/
def complaint (v : Validator) (data : Json) (field : FieldDefinition) : Option String :=
  (v.validateField field (data.get? field.name) data).1

variable {v : Validator} {done : List FieldDefinition} {data : Json}

theorem Recalls.complaint_eq (h : v.Recalls done) (data : Json) (field : FieldDefinition) :
    v.complaint data field = field.constraints.bind fun spec =>
      v.rules.verdict (data.get? field.name) data (checks field spec
        (served (recalled field.id done) spec).toJson (data.get? field.name)) :=
  (h.validateField field (data.get? field.name) data).1

/-- No rule is heard that has nothing to say. -/
theorem firstMessage_ne_empty (v : Validator) (value : Option Json) (data : Json)
    (checks : List (String × Json)) : (v.firstMessage value data checks).1 ≠ some "" := by
  fun_induction firstMessage v value data checks with
  | case1 v => nofun
  | case2 v name options rest message next hcall =>
    rintro ⟨⟩
    have hanswer : (v.call name value options data).1 = some "" := congrArg Prod.fst hcall
    unfold call at hanswer
    split at hanswer
    · cases hanswer
    · obtain ⟨-, hne⟩ := Option.filter_eq_some_iff.mp hanswer
      exact of_decide_eq_true hne rfl
  | case3 v name options rest next hcall ih => exact ih

theorem validateField_ne_empty (v : Validator) (field : FieldDefinition) (value : Option Json)
    (data : Json) : (v.validateField field value data).1 ≠ some "" := by
  unfold validateField
  split
  · nofun
  · exact firstMessage_ne_empty _ _ _ _

/-- Nothing is lost of what a validation says where empty messages are dropped. -/
theorem filter_validateField (v : Validator) (field : FieldDefinition) (value : Option Json)
    (data : Json) :
    (v.validateField field value data).1.filter (fun m => m ≠ "") =
      (v.validateField field value data).1 := by
  have hne := v.validateField_ne_empty field value data
  cases hsaid : (v.validateField field value data).1 with
  | none => rfl
  | some m =>
    rw [hsaid] at hne
    exact Option.filter_eq_some_iff.mpr
      ⟨rfl, decide_eq_true fun hempty => hne (congrArg some hempty)⟩

/-- What was served once is served again. -/
theorem served_served (known : Option Constraints) (spec : Constraints) :
    served (some (served known spec)) spec = served known spec := by
  rcases served_cases known spec with heq | ⟨-, hsame⟩
  · rw [heq, served]
    split <;> rfl
  · exact if_pos hsame

/-- A validation of a field changes nothing of what is said of fields with other identifiers, and of
the field itself. -/
theorem Recalls.complaint_validateField (h : v.Recalls done) (field : FieldDefinition)
    (value : Option Json) (data : Json) {other : FieldDefinition}
    (hother : field.id = other.id → field = other) (data' : Json) :
    (v.validateField field value data).2.complaint data' other = v.complaint data' other := by
  obtain ⟨-, hrules, hafter⟩ := h.validateField field value data
  rw [hafter.complaint_eq, h.complaint_eq, hrules, recalled_concat]
  cases hspec : other.constraints with
  | none => rfl
  | some spec =>
    have hserved : served (remember other.id (recalled other.id done) field) spec =
        served (recalled other.id done) spec := by
      by_cases hid : field.id = other.id
      · rw [remember, if_pos hid, hother hid, hspec]
        exact served_served _ _
      · rw [remember, if_neg hid]
    rw [Option.bind_some, Option.bind_some, hserved]

/-- A validation of a field changes nothing of what is said of several others. -/
theorem Recalls.complaints_validateField (h : v.Recalls done) (field : FieldDefinition)
    (value : Option Json) (data : Json) {others : List FieldDefinition}
    (hothers : field.id ∉ others.map FieldDefinition.id) (data' : Json) :
    others.filterMap ((v.validateField field value data).2.complaint data') =
      others.filterMap (v.complaint data') := by
  refine List.filterMap_congr fun other hother => h.complaint_validateField _ _ _ ?_ _
  intro hid
  exact absurd (hid ▸ List.mem_map_of_mem hother) hothers

/-- The messages of a full pass are those of its fields, each validated alone. Of fields with one
name the last message counts. -/
theorem Recalls.find?_gather (h : v.Recalls done) (errors : Errors) {fields : List FieldDefinition}
    (hids : (fields.map FieldDefinition.id).Nodup) (name : String) :
    Keyed.find? (v.gather data errors fields).1 name =
      (((fields.filter fun f => f.name == name).filterMap (v.complaint data)).getLast?).or
        (Keyed.find? errors name) := by
  -- The validator changes from field to field, and with it the fields that it recalls.
  induction fields generalizing v done errors with
  | nil => rfl
  | cons field rest ih =>
    obtain ⟨hfirst, hrest⟩ := List.nodup_cons.mp hids
    have hnext := (h.validateField field (data.get? field.name) data).2.2
    -- The rest is said as if the first field had not been validated.
    have hothers : field.id ∉ (rest.filter fun f => f.name == name).map FieldDefinition.id :=
      fun hmem => hfirst (List.map_subset _ (List.filter_subset_self _) hmem)
    have hsame := h.complaints_validateField field (data.get? field.name) data hothers data
    rw [Validator.gather]
    split
    · rename_i message next heq
      have hcomplaint : v.complaint data field = some message := congrArg Prod.fst heq
      rw [heq] at hnext hsame
      rw [ih hnext _ hrest, hsame]
      by_cases hname : field.name = name
      · have hkept : (field.name == name) = true := beq_iff_eq.mpr hname
        rw [List.filter_cons, if_pos hkept, List.filterMap_cons_some hcomplaint,
          List.getLast?_cons, hname, Keyed.find?_insert_self]
        cases ((rest.filter fun f => f.name == name).filterMap (v.complaint data)).getLast? <;> rfl
      · have hother : ¬ (field.name == name) = true := mt beq_iff_eq.mp hname
        rw [List.filter_cons, if_neg hother,
          Keyed.find?_insert_of_ne _ (Ne.symm hname)]
    · rename_i next heq
      have hcomplaint : v.complaint data field = none := congrArg Prod.fst heq
      rw [heq] at hnext hsame
      rw [ih hnext _ hrest, hsame, List.filter_cons]
      split
      · rw [List.filterMap_cons_none hcomplaint]
      · rfl

theorem Recalls.find?_validateAll (h : v.Recalls done) {fields : List FieldDefinition}
    (hids : (fields.map FieldDefinition.id).Nodup) (name : String) :
    Keyed.find? (v.validateAll fields data).1 name =
      ((fields.filter fun f => f.name == name).filterMap (v.complaint data)).getLast? := by
  rw [validateAll, h.find?_gather [] hids, Keyed.find?_nil, Option.or_none]

/-- A message of a full pass is what is wrong with the last field with the name that has something
wrong. -/
theorem Recalls.find?_validateAll_eq_some_iff (h : v.Recalls done) {fields : List FieldDefinition}
    (hids : (fields.map FieldDefinition.id).Nodup) {name message : String} :
    Keyed.find? (v.validateAll fields data).1 name = some message ↔
      ∃ before field after, fields = before ++ field :: after ∧ field.name = name ∧
        v.complaint data field = some message ∧
        ∀ later ∈ after, later.name = name → v.complaint data later = none := by
  have hread (f : FieldDefinition) (m : String) :
      (if (f.name == name) = true then v.complaint data f else none) = some m ↔
        f.name = name ∧ v.complaint data f = some m := by
    rw [Option.ite_none_right_eq_some, beq_iff_eq]
  rw [h.find?_validateAll hids, List.filterMap_filter, List.getLast?_filterMap,
    List.findSome?_eq_some_iff]
  constructor
  · rintro ⟨later, field, earlier, hsplit, hfield, hlater⟩
    have hfields : fields = earlier.reverse ++ field :: later.reverse := by
      rw [List.reverse_eq_iff.mp hsplit]
      simp
    obtain ⟨hname, hcomplaint⟩ := (hread field message).mp hfield
    refine ⟨earlier.reverse, field, later.reverse, hfields, hname, hcomplaint, ?_⟩
    intro other hother hsame
    have hnone := hlater other (List.mem_reverse.mp hother)
    rwa [if_pos (beq_iff_eq.mpr hsame)] at hnone
  · rintro ⟨before, field, after, rfl, hname, hcomplaint, hafter⟩
    refine ⟨after.reverse, field, before.reverse, by simp, (hread _ _).mpr ⟨hname, hcomplaint⟩, ?_⟩
    intro other hother
    rw [Option.eq_none_iff_forall_ne_some]
    intro m hm
    obtain ⟨hsame, hsome⟩ := (hread other m).mp hm
    rw [hafter other (List.mem_reverse.mp hother) hsame] at hsome
    cases hsome

/-- A full pass has a message under a name exactly if something is wrong with a field with the name.
-/
theorem Recalls.isSome_find?_validateAll (h : v.Recalls done) {fields : List FieldDefinition}
    (hids : (fields.map FieldDefinition.id).Nodup) (name : String) :
    (Keyed.find? (v.validateAll fields data).1 name).isSome = true ↔
      ∃ field ∈ fields, field.name = name ∧ (v.complaint data field).isSome = true := by
  rw [h.find?_validateAll hids, List.getLast?_isSome]
  constructor
  · intro hne
    obtain ⟨message, hmem⟩ := List.exists_mem_of_ne_nil _ hne
    obtain ⟨field, hfield, hsaid⟩ := List.mem_filterMap.mp hmem
    obtain ⟨hin, hname⟩ := List.mem_filter.mp hfield
    exact ⟨field, hin, beq_iff_eq.mp hname, Option.isSome_of_eq_some hsaid⟩
  · rintro ⟨field, hin, hname, hsome⟩
    obtain ⟨message, hsaid⟩ := Option.isSome_iff_exists.mp hsome
    have hfield : field ∈ fields.filter fun f => f.name == name :=
      List.mem_filter.mpr ⟨hin, beq_iff_eq.mpr hname⟩
    exact List.ne_nil_of_mem (List.mem_filterMap.mpr ⟨field, hfield, hsaid⟩)

/-- A full pass over some of several fields changes nothing of what is said of any of them. -/
theorem Recalls.complaint_gather (h : v.Recalls done) (errors : Errors)
    {fields scope : List FieldDefinition} (hids : (fields.map FieldDefinition.id).Nodup)
    (hscope : scope ⊆ fields) {field : FieldDefinition} (hfield : field ∈ fields) (data' : Json) :
    (v.gather data errors scope).2.complaint data' field = v.complaint data' field := by
  induction scope generalizing v done errors with
  | nil => rfl
  | cons first rest ih =>
    obtain ⟨hfirst, hrest⟩ := List.cons_subset.mp hscope
    have hnext := (h.validateField first (data.get? first.name) data).2.2
    have hsame := h.complaint_validateField first (data.get? first.name) data
      (fun hid => List.inj_on_of_nodup_map hids hfirst hfield hid) data'
    rw [Validator.gather]
    split
    · rename_i message next heq
      rw [heq] at hnext hsame
      exact (ih hnext _ hrest).trans hsame
    · rename_i next heq
      rw [heq] at hnext hsame
      exact (ih hnext _ hrest).trans hsame

/-- What a full pass adds are messages under the names of its fields. -/
theorem mem_of_mem_gather (v : Validator) (errors : Errors) (fields : List FieldDefinition)
    {entry : String × String} (h : entry ∈ (v.gather data errors fields).1) :
    entry ∈ errors ∨ (∃ f ∈ fields, f.name = entry.1) ∧ entry.2 ≠ "" := by
  induction fields generalizing v errors with
  | nil => exact .inl h
  | cons field rest ih =>
    have hrest (hmem : (∃ f ∈ rest, f.name = entry.1) ∧ entry.2 ≠ "") :
        (∃ f ∈ field :: rest, f.name = entry.1) ∧ entry.2 ≠ "" := by
      obtain ⟨⟨f, hf, hname⟩, hne⟩ := hmem
      exact ⟨⟨f, List.mem_cons_of_mem _ hf, hname⟩, hne⟩
    rw [Validator.gather] at h
    split at h
    · rename_i message next heq
      rcases ih _ _ h with hmem | hmem
      · rcases Keyed.eq_or_mem_of_mem_insert hmem with rfl | hmem
        · refine .inr ⟨⟨field, List.mem_cons_self, rfl⟩, fun hempty => ?_⟩
          have hne := v.validateField_ne_empty field (data.get? field.name) data
          rw [heq] at hne
          exact hne (congrArg some hempty)
        · exact .inl hmem
      · exact .inr (hrest hmem)
    · rcases ih _ _ h with hmem | hmem
      · exact .inl hmem
      · exact .inr (hrest hmem)

theorem mem_of_mem_validateAll (v : Validator) (fields : List FieldDefinition)
    {entry : String × String} (h : entry ∈ (v.validateAll fields data).1) :
    (∃ f ∈ fields, f.name = entry.1) ∧ entry.2 ≠ "" :=
  (v.mem_of_mem_gather [] fields h).resolve_left List.not_mem_nil

theorem ordered_gather (v : Validator) {errors : Errors} (h : Keyed.Ordered errors)
    (fields : List FieldDefinition) : Keyed.Ordered (v.gather data errors fields).1 := by
  induction fields generalizing v errors with
  | nil => exact h
  | cons field rest ih =>
    rw [Validator.gather]
    split
    · exact ih _ (Keyed.ordered_insert h _ _)
    · exact ih _ h

theorem ordered_validateAll (v : Validator) (fields : List FieldDefinition) :
    Keyed.Ordered (v.validateAll fields data).1 :=
  v.ordered_gather List.Pairwise.nil fields

end Validator

end LiveForm
