import LiveForm.Engine.Call
import LiveForm.Engine.Load
import LiveForm.Engine.Submit
import LiveForm.Proofs.Json.Access

/-!
# What a call can do

A call that puts values in has a result where there is room for each of them at its turn. What it
then leaves is said once, so that no later proof opens the calls again: `perform_cases` goes through
the calls that are done at once, where one value is put in as several are (`setValue_eq`), and
`seedDefaults_keeps` goes along the defaults of a form that is taken up.
-/

namespace LiveForm

namespace Json

/-- What values that are put at names leave, one after the other. -/
def setAll (v : Json) (values : Keyed Json) : Json :=
  values.foldl (fun v (name, value) => v.set name value) v

/-- There is room for each value at its turn. -/
def AllWritable (v : Json) (values : Keyed Json) : Prop :=
  ∀ before name value after, values = before ++ (name, value) :: after →
    (v.setAll before).Writable (segments name)

theorem allWritable_nil (v : Json) : v.AllWritable [] := by
  intro before name value after h
  exact absurd h.symm (by simp)

theorem allWritable_cons {v value : Json} {name : String} {rest : Keyed Json} :
    v.AllWritable ((name, value) :: rest) ↔
      v.Writable (segments name) ∧ (v.set name value).AllWritable rest := by
  constructor
  · intro h
    refine ⟨h [] name value rest rfl, ?_⟩
    rintro before other x after rfl
    exact h ((name, value) :: before) other x after rfl
  · rintro ⟨hfirst, hrest⟩ before other x after heq
    cases before with
    | nil =>
      cases heq
      exact hfirst
    | cons first before =>
      obtain ⟨rfl, hlater⟩ := List.cons.inj heq
      exact hrest before other x after hlater

/-- An object has room at every name without a dot. -/
theorem allWritable_of_not_mem {values : Keyed Json}
    (hdots : ∀ entry ∈ values, '.' ∉ entry.1.toList) (members : Keyed Json) :
    (Json.obj members).AllWritable values := by
  induction values generalizing members with
  | nil => exact allWritable_nil _
  | cons entry rest ih =>
    obtain ⟨name, value⟩ := entry
    obtain ⟨hfirst, hrest⟩ := List.forall_mem_cons.mp hdots
    have hsegments : segments name = [name] := Text.pieces_of_not_mem hfirst
    rw [allWritable_cons, hsegments, set_of_not_mem hfirst]
    exact ⟨writable_cons.mpr ⟨nofun, writable_nil _⟩, ih hrest _⟩

end Json

namespace FormState

variable {s s' : FormState} {name : String} {value : Json} {values : Keyed Json}

theorem data_setValue (h : s.setValue name value = some s') :
    s'.data = s.data.set name value := by
  obtain ⟨data, hdata, rfl⟩ := setValue_eq_some_iff.mp h
  rw [data_changed, (Json.set?_eq_some_iff.mp hdata).2]

theorem fill_singleton (s : FormState) (name : String) (value : Json) :
    s.fill [(name, value)] = s.setValue name value :=
  Option.bind_fun_some _

/-- Values that are put in one after the other change the data one after the other. -/
theorem data_fill (h : s.fill values = some s') : s'.data = s.data.setAll values := by
  induction values generalizing s with
  | nil =>
    cases h
    rfl
  | cons entry rest ih =>
    obtain ⟨mid, hmid, hrest⟩ := Option.bind_eq_some_iff.mp h
    rw [ih hrest, data_setValue hmid]
    rfl

theorem isSome_setValue_iff (s : FormState) (name : String) (value : Json) :
    (s.setValue name value).isSome = true ↔ s.data.Writable (segments name) := by
  rw [setValue, Option.isSome_map]
  exact Json.isSome_write?_iff value

/-- Values can be put in exactly where there is room for each of them at its turn. -/
theorem isSome_fill_iff (s : FormState) (values : Keyed Json) :
    (s.fill values).isSome = true ↔ s.data.AllWritable values := by
  induction values generalizing s with
  | nil => exact iff_of_true rfl s.data.allWritable_nil
  | cons entry rest ih =>
    obtain ⟨name, value⟩ := entry
    rw [fill, Json.allWritable_cons, ← s.isSome_setValue_iff name value]
    cases hfirst : s.setValue name value with
    | none => simp
    | some mid =>
      rw [Option.bind_some, ih, data_setValue hfirst]
      simp

end FormState

namespace Engine

variable {e e' : Engine} {name : String} {value : Json} {values : Keyed Json} {call : EngineCall}
  {answer : Bool} {events : List FormEvent} {fields : List FieldDefinition} {d : FormDefinition}

/-! ## Changes as a whole -/

theorem update?_eq_some_iff {α : Type} {change : Engine → Option (α × Engine)} {answer : α} :
    e.update? change = some (answer, events, e') ↔
      ∃ done, change e = some (answer, done) ∧ done.drain.1 = events ∧ done.drain.2 = e' := by
  rw [update?, Option.map_eq_some_iff]
  constructor
  · rintro ⟨⟨_, done⟩, hdone, heq⟩
    obtain ⟨rfl, htold⟩ := Prod.mk.inj heq
    exact ⟨done, hdone, congrArg Prod.fst htold, congrArg Prod.snd htold⟩
  · rintro ⟨done, hdone, rfl, rfl⟩
    exact ⟨(answer, done), hdone, rfl⟩

theorem obey_eq_some_iff :
    e.obey call = some (answer, events, e') ↔
      ∃ done, e.perform call = some (answer, done) ∧
        done.drain.1 = events ∧ done.drain.2 = e' :=
  update?_eq_some_iff

/-! ## Calls that are done at once -/

/-- One value is put in as several are. -/
theorem setValue_eq (e : Engine) (name : String) (value : Json) :
    e.setValue name value = e.setFormData [(name, value)] := by
  rw [setValue, setFormData, FormState.fill_singleton]
  rfl

theorem setFormData_eq_some_iff :
    e.setFormData values = some e' ↔
      ∃ state, e.state.fill values = some state ∧
        ({ e with state := state }).follow values.keys = e' :=
  Option.map_eq_some_iff

/-- A value can be put in exactly where there is room for it. -/
theorem isSome_obey_setValue_iff (e : Engine) (name : String) (value : Json) :
    (e.obey (.setValue name value)).isSome = true ↔
      e.state.data.Writable (segments name) := by
  rw [obey, update?, Option.isSome_map, perform, Option.isSome_map, setValue, Option.isSome_map]
  exact e.state.isSome_setValue_iff name value

/-- Several values can be put in exactly where there is room for each of them at its turn. -/
theorem isSome_obey_setFormData_iff (e : Engine) (values : Keyed Json) :
    (e.obey (.setFormData values)).isSome = true ↔ e.state.data.AllWritable values := by
  rw [obey, update?, Option.isSome_map, perform, Option.isSome_map, setFormData,
    Option.isSome_map]
  exact e.state.isSome_fill_iff values

/-- A call that has a result puts values in, or leaves a field, validates, resets or makes the view
anew. -/
theorem perform_cases {P : Engine → Prop} (h : e.perform call = some (answer, e'))
    (hfill : ∀ values state, e.state.fill values = some state →
      P (({ e with state := state }).follow values.keys))
    (hblur : ∀ name, P (e.blur name)) (hvalidate : P e.writeErrors.2) (hreset : P e.reset)
    (hrender : P e.render) : P e' := by
  have hfilled {values : Keyed Json}
      (h : (e.setFormData values).map (fun e => (true, e)) = some (answer, e')) : P e' := by
    obtain ⟨done, hdone, heq⟩ := Option.map_eq_some_iff.mp h
    cases heq
    obtain ⟨state, hstate, rfl⟩ := setFormData_eq_some_iff.mp hdone
    exact hfill values state hstate
  cases call with
  | setValue name value =>
    rw [perform, setValue_eq] at h
    exact hfilled h
  | setFormData data => exact hfilled h
  | blur name =>
    cases h
    exact hblur name
  | validate =>
    cases h
    exact hvalidate
  | reset =>
    cases h
    exact hreset
  | render =>
    cases h
    exact hrender

/-! ## Defaults -/

/-- What every default that has its turn keeps all of them keep. -/
theorem seedDefaults_keeps {P : Engine → Prop}
    (hseed : ∀ e id name value put state, e.state.seed name value = some (put, state) → P e →
      P { e with seeded := id :: e.seeded, state := state })
    (h : e.seedDefaults fields = some e') (he : P e) : P e' := by
  induction fields generalizing e with
  | nil =>
    cases h
    exact he
  | cons field rest ih =>
    rw [seedDefaults] at h
    split at h
    · exact ih h he
    · rename_i value hvalue
      split at h
      · exact ih h he
      · obtain ⟨⟨put, state⟩, hput, hrest⟩ := Option.bind_eq_some_iff.mp h
        exact ih hrest (hseed e _ _ _ _ _ hput he)

theorem install_eq_some_iff :
    e.install d = some e' ↔
      ∃ sown, seedDefaults { e with definition := some d } d.fields = some sown ∧
        sown.present d = e' :=
  Option.map_eq_some_iff

end Engine

end LiveForm
