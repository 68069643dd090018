import LiveForm.Proofs.Engine.Edits

/-!
# What a batch of values tells

A batch puts its values in one after the other, each told with the data so far
(`FormEvent.ofValues`). Only then is it found out what is shown, so that a field that one value
hides and a later one shows again is not told of at all: what is told is the difference between the
data before and after. The fields are validated last.

The marks that the values leave depend on those that were there, and on nothing else that the state
holds (`FormState.touched_setValue_congr`).
-/

namespace LiveForm

/-- The events of values that are put into data one after the other. -/
def FormEvent.ofValues (data : Json) : Keyed Json → List FormEvent
  | [] => []
  | (name, value) :: rest =>
    .fieldChange name value (data.set name value) :: ofValues (data.set name value) rest

theorem FormEvent.ofValues_append (data : Json) (values later : Keyed Json) :
    ofValues data (values ++ later) = ofValues data values ++
      ofValues (data.setAll values) later := by
  induction values generalizing data with
  | nil => rfl
  | cons entry rest ih => exact congrArg (_ :: ·) (ih (data.set entry.1 entry.2))

theorem FormEvent.kind_of_mem_ofValues {data : Json} {values : Keyed Json} {event : FormEvent}
    (h : event ∈ ofValues data values) : event.kind = .fieldChange := by
  induction values generalizing data with
  | nil => cases h
  | cons entry rest ih =>
    rcases List.mem_cons.mp h with rfl | hrest
    · rfl
    · exact ih hrest

namespace FormState

variable {s s' : FormState} {values : Keyed Json}

/-- Values that are put in before others. -/
theorem fill_append (s : FormState) (values later : Keyed Json) :
    s.fill (values ++ later) = (s.fill values).bind fun s => s.fill later := by
  induction values generalizing s with
  | nil => rfl
  | cons entry rest ih =>
    obtain ⟨name, value⟩ := entry
    rw [List.cons_append, fill, fill, Option.bind_assoc]
    simp only [ih]

/-- One more value is put into what those before it left. -/
theorem fill_concat {s' : FormState} {entry : String × Json} :
    s.fill (values ++ [entry]) = some s' ↔
      ∃ mid, s.fill values = some mid ∧ mid.setValue entry.1 entry.2 = some s' := by
  obtain ⟨name, value⟩ := entry
  rw [fill_append, Option.bind_eq_some_iff]
  simp only [fill_singleton]

/-- Which marks a value sets depends on the marks that are there. -/
theorem touched_setValue_congr {t t' : FormState} {name : String} {value : Json}
    (h : s.touched = t.touched) (hs : s.setValue name value = some s')
    (ht : t.setValue name value = some t') : s'.touched = t'.touched := by
  obtain ⟨data, -, rfl⟩ := setValue_eq_some_iff.mp hs
  obtain ⟨data', -, rfl⟩ := setValue_eq_some_iff.mp ht
  rw [touched_changed, touched_changed, isTouched, isTouched, h]

theorem pending_fill (h : s.fill values = some s') :
    s'.pending = s.pending ++ FormEvent.ofValues s.data values := by
  induction values generalizing s with
  | nil =>
    cases h
    exact (List.append_nil _).symm
  | cons entry rest ih =>
    obtain ⟨mid, hmid, hrest⟩ := Option.bind_eq_some_iff.mp h
    rw [ih hrest, pending_setValue hmid, data_setValue hmid, List.append_assoc]
    rfl

end FormState

namespace Engine

variable {e : Engine}

/-- A validation of one field tells of errors alone. -/
theorem exists_drain_validateNamed (e : Engine) (name : String) :
    ∃ found, (e.validateNamed name).drain.1 = e.drain.1 ++ found ∧
      ∀ event ∈ found, event.kind = .errorChange := by
  cases hfield : e.definition.bind fun d => d.fieldNamed? name with
  | none =>
    rw [validateNamed_of_none hfield]
    exact ⟨[], (List.append_nil _).symm, nofun⟩
  | some field =>
    refine ⟨_, drain_validateNamed hfield, ?_⟩
    intro event hevent
    split at hevent
    · cases hevent
    · rw [List.mem_singleton.mp hevent]
      rfl

theorem exists_drain_foldl_validateNamed (e : Engine) (names : List String) :
    ∃ found, (names.foldl validateNamed e).drain.1 = e.drain.1 ++ found ∧
      ∀ event ∈ found, event.kind = .errorChange := by
  induction names generalizing e with
  | nil => exact ⟨[], (List.append_nil _).symm, nofun⟩
  | cons name rest ih =>
    obtain ⟨first, hfirst, hkinds⟩ := e.exists_drain_validateNamed name
    obtain ⟨later, hlater, hkinds'⟩ := ih (e.validateNamed name)
    refine ⟨first ++ later, ?_, ?_⟩
    · rw [List.foldl_cons, hlater, hfirst, List.append_assoc]
    · intro event hevent
      rcases List.mem_append.mp hevent with hevent | hevent
      · exact hkinds event hevent
      · exact hkinds' event hevent

/-- A batch tells of its values, of the fields that they flip all together, and of errors. -/
theorem drain_setFormData {values : Keyed Json} {state : FormState} (hcoherent : e.content.Coherent)
    (h : e.state.fill values = some state) :
    ∃ flipped found, (({ e with state := state }).follow values.keys).drain.1 =
        e.drain.1 ++ (FormEvent.ofValues e.state.data values ++
          flipped.map (fun entry => .visibilityChange entry.1 entry.2)) ++ found ∧
      Differs e.fields e.state.data state.data flipped ∧
      ∀ event ∈ found, event.kind = .errorChange := by
  obtain ⟨flipped, hfilled, hdiffers⟩ := drain_filled hcoherent (FormState.pending_fill h)
  rw [follow_eq, drain_rebuild]
  split
  · obtain ⟨found, hfound, hkinds⟩ := exists_drain_foldl_validateNamed (e.filled state) values.keys
    exact ⟨flipped, found, by rw [hfound, hfilled], hdiffers, hkinds⟩
  · exact ⟨flipped, [], by rw [hfilled, List.append_nil], hdiffers, nofun⟩

end Engine

end LiveForm
