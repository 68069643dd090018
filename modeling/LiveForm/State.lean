import LiveForm.Event.Basic
import LiveForm.Json.Path

/-!
# The state of a form

The data is an object with the values of the fields, which are found by their dotted names. Besides
there are the errors, the names that were touched, and the events that tell what was done. They
wait until they are drained.

A value cannot be put at every name: an array has no room under the greatest index. Then the program
stops, and `setValue`, `fill` and `seed` have no result. What a program that stopped leaves behind is
not said here.
-/

namespace LiveForm

/-- The data of a form, its errors, what was touched, and the events that wait. -/
structure FormState where
  data : Json := .obj []
  errors : Errors := []
  touched : List String := []
  pending : List FormEvent := []

namespace FormState

/-- A state with initial data. -/
def ofData (members : Keyed Json) : FormState := { data := .obj members }

/-- The value at a name. -/
def value? (s : FormState) (name : String) : Option Json := s.data.get? name

/-- The error at a name. -/
def error? (s : FormState) (name : String) : Option String := Keyed.find? s.errors name

def isTouched (s : FormState) (name : String) : Bool := s.touched.contains name

/-- There are no errors. -/
def isValid (s : FormState) : Bool := s.errors.isEmpty

/-- Mark a name. -/
def touch (s : FormState) (name : String) : FormState :=
  if s.isTouched name then s else { s with touched := name :: s.touched }

/-- Add an event behind those that wait. -/
def queue (s : FormState) (e : FormEvent) : FormState := { s with pending := s.pending ++ [e] }

/-- Take over data in which a value was put at a name: mark the name, and tell. -/
def changed (s : FormState) (name : String) (value data : Json) : FormState :=
  ({ s with data := data }.touch name).queue (.fieldChange name value data)

/-- Put a value at a name, mark the name, and tell. -/
def setValue (s : FormState) (name : String) (value : Json) : Option FormState :=
  (s.data.set? name value).map (s.changed name value)

/-- Put several values, each at its name, one after the other. -/
def fill (s : FormState) : Keyed Json → Option FormState
  | [] => some s
  | (name, value) :: rest => (s.setValue name value).bind fun s => s.fill rest

/-- Put a value at a name that has none. Nothing is marked or told. Whether it was put is given
back. -/
def seed (s : FormState) (name : String) (value : Json) : Option (Bool × FormState) :=
  if (s.value? name).isSome then some (false, s)
  else (s.data.set? name value).map fun data => (true, { s with data := data })

/-- Put an error at a name or take it away, and tell. An empty message takes it away. -/
def setError (s : FormState) (name : String) (error : Option String) : FormState :=
  let error := error.filter fun m => m ≠ ""
  let errors :=
    match error with
    | some m => Keyed.insert s.errors name m
    | none => Keyed.erase s.errors name
  { s with errors := errors }.queue (.errorChange name error errors)

/-- Take all errors away, and tell. -/
def clearErrors (s : FormState) : FormState := { s with errors := [] }.queue .errorsCleared

/-- Take all data, errors and marks away, and tell. -/
def reset (s : FormState) : FormState :=
  { s with data := .obj [], errors := [], touched := [] }.queue .formReset

/-- The events that waited, oldest first; none are left. -/
def drain (s : FormState) : List FormEvent × FormState := (s.pending, { s with pending := [] })

/-! ## What an operation leaves alone -/

@[simp] theorem data_touch (s : FormState) (name : String) : (s.touch name).data = s.data := by
  unfold touch; split <;> rfl

@[simp] theorem errors_touch (s : FormState) (name : String) :
    (s.touch name).errors = s.errors := by
  unfold touch; split <;> rfl

@[simp] theorem pending_touch (s : FormState) (name : String) :
    (s.touch name).pending = s.pending := by
  unfold touch; split <;> rfl

theorem touched_touch (s : FormState) (name : String) :
    (s.touch name).touched = if s.isTouched name then s.touched else name :: s.touched :=
  apply_ite FormState.touched (s.isTouched name = true) _ _

theorem isTouched_touch (s : FormState) (name : String) :
    (s.touch name).isTouched name = true := by
  unfold touch
  split
  · assumption
  · simp [isTouched]

@[simp] theorem data_changed (s : FormState) (name : String) (value data : Json) :
    (s.changed name value data).data = data := by
  simp [changed, queue]

@[simp] theorem errors_changed (s : FormState) (name : String) (value data : Json) :
    (s.changed name value data).errors = s.errors := by
  simp [changed, queue]

@[simp] theorem pending_changed (s : FormState) (name : String) (value data : Json) :
    (s.changed name value data).pending = s.pending ++ [.fieldChange name value data] := by
  simp [changed, queue]

theorem touched_changed (s : FormState) (name : String) (value data : Json) :
    (s.changed name value data).touched =
      if s.isTouched name then s.touched else name :: s.touched :=
  touched_touch _ name

@[simp] theorem data_setError (s : FormState) (name : String) (error : Option String) :
    (s.setError name error).data = s.data := rfl

variable {s s' : FormState} {name : String} {value : Json} {put : Bool}

theorem setValue_eq_some_iff :
    s.setValue name value = some s' ↔
      ∃ data, s.data.set? name value = some data ∧ s.changed name value data = s' :=
  Option.map_eq_some_iff

/-- What every change of a value keeps several of them keep. -/
theorem fill_keeps {P : FormState → Prop}
    (hchanged : ∀ s name value data, s.data.set? name value = some data → P s →
      P (s.changed name value data))
    {values : Keyed Json} (h : s.fill values = some s') (hs : P s) : P s' := by
  induction values generalizing s with
  | nil =>
    cases h
    exact hs
  | cons entry rest ih =>
    obtain ⟨mid, hmid, hrest⟩ := Option.bind_eq_some_iff.mp h
    obtain ⟨data, hdata, rfl⟩ := setValue_eq_some_iff.mp hmid
    exact ih hrest (hchanged s _ _ data hdata hs)

/-- What is there is kept, and else the data with the value take the place of those before. -/
theorem seed_cases (h : s.seed name value = some (put, s')) :
    (put = false ∧ (s.value? name).isSome = true ∧ s' = s) ∨
      (put = true ∧ s.value? name = none ∧
        ∃ data, s.data.set? name value = some data ∧ s' = { s with data := data }) := by
  unfold seed at h
  split at h
  · rename_i hthere
    cases h
    exact .inl ⟨rfl, hthere, rfl⟩
  · rename_i hthere
    obtain ⟨data, hdata, heq⟩ := Option.map_eq_some_iff.mp h
    cases heq
    exact .inr ⟨rfl, Option.not_isSome_iff_eq_none.mp hthere, data, hdata, rfl⟩

theorem seed_keeps {P : FormState → Prop} (hdata : ∀ s data, P s → P { s with data := data })
    (h : s.seed name value = some (put, s')) (hs : P s) : P s' := by
  rcases seed_cases h with ⟨-, -, rfl⟩ | ⟨-, -, data, -, rfl⟩
  · exact hs
  · exact hdata s data hs

end FormState

end LiveForm
