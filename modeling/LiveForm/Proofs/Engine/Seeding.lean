import LiveForm.Proofs.Engine.Blame

/-!
# Which defaults are put in

A form that is taken up puts in the defaults of its fields one after the other. `sown` lists those
that are put in, and the data change by these and nothing else (`Engine.data_install`). It can be
taken up exactly where there is room for each of them at its turn (`Engine.isSome_install_iff`).

A field that carries a default has its chance when its form is taken up, whether its default is put
in or a value is in the way, and none afterwards: what is sown is never of a field that had its
chance (`seeded_of_mem_sown`), and has had it from then on.
-/

namespace LiveForm

/-- A default that is put in: of which field, and at which name. -/
structure Sowing where
  id : String
  name : String
  value : Json

/-- The name with what is put there. -/
def Sowing.entry (y : Sowing) : String × Json := (y.name, y.value)

namespace FormDefinition

/-- A field with the identifier carries a default. -/
def Defaults (d : FormDefinition) (id : String) : Prop :=
  ∃ field ∈ d.fields, field.id = id ∧ field.defaultValue.isSome = true

end FormDefinition

/-- The defaults of fields that are put into data, each at its turn. Some fields had their chance. -/
def sown (seeded : List String) (data : Json) : List FieldDefinition → List Sowing
  | [] => []
  | field :: rest =>
    match field.defaultValue with
    | none => sown seeded data rest
    | some value =>
      if seeded.contains field.id then sown seeded data rest
      else if (data.get? field.name).isSome then sown (field.id :: seeded) data rest
      else
        ⟨field.id, field.name, value⟩ ::
          sown (field.id :: seeded) (data.set field.name value) rest

/-- Put defaults into data. -/
def Json.sow (data : Json) (sowings : List Sowing) : Json :=
  sowings.foldl (fun v sowing => v.set sowing.name sowing.value) data

/-- The identifiers that had their chance once the defaults of fields were put in. -/
def chances (seeded : List String) : List FieldDefinition → List String
  | [] => seeded
  | field :: rest =>
    if field.defaultValue.isNone || seeded.contains field.id then chances seeded rest
    else chances (field.id :: seeded) rest

section

variable {seeded : List String} {data : Json} {fields : List FieldDefinition} {sowing : Sowing}

/-- What is put in is the default of one of the fields. -/
theorem field_of_mem_sown (h : sowing ∈ sown seeded data fields) :
    ∃ field ∈ fields, field.id = sowing.id ∧ field.name = sowing.name ∧
      field.defaultValue = some sowing.value := by
  have hrest {field : FieldDefinition} {rest : List FieldDefinition}
      (h : ∃ other ∈ rest, other.id = sowing.id ∧ other.name = sowing.name ∧
        other.defaultValue = some sowing.value) :
      ∃ other ∈ field :: rest, other.id = sowing.id ∧ other.name = sowing.name ∧
        other.defaultValue = some sowing.value := by
    obtain ⟨other, hother, hsame⟩ := h
    exact ⟨other, List.mem_cons_of_mem _ hother, hsame⟩
  fun_induction sown seeded data fields with
  | case1 => cases h
  | case2 seeded data field rest hnone ih => exact hrest (ih h)
  | case3 seeded data field rest value hvalue hseeded ih => exact hrest (ih h)
  | case4 seeded data field rest value hvalue hseeded hthere ih => exact hrest (ih h)
  | case5 seeded data field rest value hvalue hseeded hthere ih =>
    rcases List.mem_cons.mp h with rfl | hlater
    · exact ⟨field, List.mem_cons_self, rfl, rfl, hvalue⟩
    · exact hrest (ih hlater)

/-- Nothing is put in for a field that had its chance. -/
theorem seeded_of_mem_sown (h : sowing ∈ sown seeded data fields) : sowing.id ∉ seeded := by
  fun_induction sown seeded data fields with
  | case1 => cases h
  | case2 seeded data field rest hnone ih => exact ih h
  | case3 seeded data field rest value hvalue hseeded ih => exact ih h
  | case4 seeded data field rest value hvalue hseeded hthere ih =>
    exact fun hbefore => ih h (List.mem_cons_of_mem _ hbefore)
  | case5 seeded data field rest value hvalue hseeded hthere ih =>
    rcases List.mem_cons.mp h with rfl | hlater
    · exact fun hbefore => hseeded (List.contains_iff_mem.mpr hbefore)
    · exact fun hbefore => ih hlater (List.mem_cons_of_mem _ hbefore)

/-- For each field something is put in at most once. -/
theorem nodup_sown (seeded : List String) (data : Json) (fields : List FieldDefinition) :
    ((sown seeded data fields).map Sowing.id).Nodup := by
  fun_induction sown seeded data fields with
  | case1 => exact List.nodup_nil
  | case2 seeded data field rest hnone ih => exact ih
  | case3 seeded data field rest value hvalue hseeded ih => exact ih
  | case4 seeded data field rest value hvalue hseeded hthere ih => exact ih
  | case5 seeded data field rest value hvalue hseeded hthere ih =>
    refine List.nodup_cons.mpr ⟨fun hmem => ?_, ih⟩
    obtain ⟨sowing, hsowing, hid⟩ := List.mem_map.mp hmem
    exact seeded_of_mem_sown hsowing (hid ▸ List.mem_cons_self)

/-- Nothing is put in where all fields that carry a default had their chance. -/
theorem sown_eq_nil
    (h : ∀ field ∈ fields, field.defaultValue.isSome = true → field.id ∈ seeded) :
    sown seeded data fields = [] := by
  refine List.eq_nil_iff_forall_not_mem.mpr fun sowing hsowing => ?_
  obtain ⟨field, hfield, hid, -, hvalue⟩ := field_of_mem_sown hsowing
  have hseeded := h field hfield (by rw [hvalue]; rfl)
  exact seeded_of_mem_sown hsowing (hid ▸ hseeded)

/-- Who had a chance has had it ever since, and so has every field that carries a default. -/
theorem mem_chances {id : String} :
    id ∈ chances seeded fields ↔
      id ∈ seeded ∨ ∃ field ∈ fields, field.id = id ∧ field.defaultValue.isSome = true := by
  induction fields generalizing seeded with
  | nil => simp [chances]
  | cons field rest ih =>
    rw [chances, List.exists_mem_cons_iff]
    cases hvalue : field.defaultValue with
    | none => simpa using ih
    | some value =>
      by_cases hseeded : field.id ∈ seeded
      · rw [if_pos (by simpa using hseeded), ih]
        grind
      · rw [if_neg (by simpa using hseeded), ih]
        grind

end

namespace Engine

/-- The defaults that a definition puts in when it is taken up. -/
def sown (e : Engine) (d : FormDefinition) : List Sowing :=
  LiveForm.sown e.seeded e.state.data d.fields

variable {e e' : Engine} {fields : List FieldDefinition} {d : FormDefinition}

/-- Defaults are put in exactly where there is room for each at its turn. Besides the data they
change only which identifiers had their chance. -/
theorem seedDefaults_eq_some_iff :
    e.seedDefaults fields = some e' ↔
      e.state.data.AllWritable
          ((LiveForm.sown e.seeded e.state.data fields).map Sowing.entry) ∧
        { e with
          seeded := chances e.seeded fields
          state := { e.state with
            data := e.state.data.sow (LiveForm.sown e.seeded e.state.data fields) } } = e' := by
  induction fields generalizing e with
  | nil =>
    refine ⟨fun h => ⟨e.state.data.allWritable_nil, Option.some.inj h⟩, ?_⟩
    rintro ⟨-, rfl⟩
    rfl
  | cons field rest ih =>
    rw [seedDefaults, LiveForm.sown, chances]
    cases hvalue : field.defaultValue with
    | none => exact ih
    | some value =>
      by_cases hseeded : e.seeded.contains field.id = true
      · simp only [hseeded, Option.isNone_some, Bool.or_true, if_true]
        exact ih
      · simp only [hseeded, Option.isNone_some, Bool.or_false, Bool.false_eq_true, if_false]
        by_cases hthere : (e.state.data.get? field.name).isSome = true
        · -- A value that is there already is kept, and the identifier has had its chance.
          have hkept : e.state.seed field.name value = some (false, e.state) := if_pos hthere
          rw [hkept, if_pos hthere]
          exact ih
        · have hput : e.state.seed field.name value =
              (e.state.data.set? field.name value).map fun data =>
                (true, { e.state with data := data }) := if_neg hthere
          rw [hput, if_neg hthere, List.map_cons, Sowing.entry, Json.allWritable_cons]
          cases hset : e.state.data.set? field.name value with
          | none =>
            have hroom : ¬ e.state.data.Writable (segments field.name) := by
              intro hroom
              rw [Json.set?_of_writable hroom] at hset
              cases hset
            simp [hroom]
          | some data =>
            obtain ⟨hroom, rfl⟩ := Json.set?_eq_some_iff.mp hset
            rw [and_iff_right hroom]
            exact ih

/-- The data change by the defaults that are put in. -/
theorem data_seedDefaults (h : e.seedDefaults fields = some e') :
    e'.state.data = e.state.data.sow (LiveForm.sown e.seeded e.state.data fields) := by
  obtain ⟨-, rfl⟩ := seedDefaults_eq_some_iff.mp h
  rfl

/-! ### Forms that are taken up -/

/-- A form can be taken up exactly where there is room for each of its defaults at its turn. -/
theorem isSome_install_iff (e : Engine) (d : FormDefinition) :
    (e.install d).isSome = true ↔
      e.state.data.AllWritable ((e.sown d).map Sowing.entry) := by
  rw [Option.isSome_iff_exists]
  constructor
  · rintro ⟨done, hdone⟩
    obtain ⟨sown, hsown, -⟩ := install_eq_some_iff.mp hdone
    exact (seedDefaults_eq_some_iff.mp hsown).1
  · intro h
    exact ⟨_, install_eq_some_iff.mpr ⟨_, seedDefaults_eq_some_iff.mpr ⟨h, rfl⟩, rfl⟩⟩

theorem data_install (h : e.install d = some e') :
    e'.state.data = e.state.data.sow (e.sown d) := by
  obtain ⟨sown, hsown, hcontent⟩ := content_install h
  have hdata : e'.state.data = sown.state.data := congrArg Content.data hcontent
  have hsowing := data_seedDefaults hsown
  exact hdata.trans hsowing

theorem mem_seeded_install (h : e.install d = some e') (id : String) :
    id ∈ e'.seeded ↔ id ∈ e.seeded ∨ d.Defaults id := by
  obtain ⟨sown, hsown, hcontent⟩ := content_install h
  obtain ⟨-, rfl⟩ := seedDefaults_eq_some_iff.mp hsown
  have hseeded : e'.seeded = chances e.seeded d.fields := congrArg Content.seeded hcontent
  rw [hseeded]
  exact mem_chances

/-- A form that is taken up marks nothing as touched. -/
theorem touched_install (h : e.install d = some e') : e'.state.touched = e.state.touched := by
  obtain ⟨sown, hsown, rfl⟩ := install_eq_some_iff.mp h
  obtain ⟨-, rfl⟩ := seedDefaults_eq_some_iff.mp hsown
  have hstatus (e : Engine) : (e.setStatus .ready).state.touched = e.state.touched := by
    unfold setStatus
    split <;> rfl
  have hcleared (e : Engine) : e.clearMessage.state.touched = e.state.touched := by
    unfold clearMessage
    split <;> rfl
  rw [present_eq]
  refine (hstatus _).trans ?_
  split
  · exact (hcleared _).trans rfl
  · rfl

end Engine

end LiveForm
