import LiveForm.Proofs.Engine.Drawing
import LiveForm.Proofs.Engine.Findings
import LiveForm.Proofs.Rules.Visibility

/-!
# What a change of a value tells

A change puts a value in, finds out what is shown with the new data, and validates the field where
the options ask for it. Each of the three tells of its own: the value and the data, the fields that
are shown or hidden from now on (`differs_put`), and the error that came or went
(`drain_validateNamed`). Each leaves alone what the others are about.
-/

namespace LiveForm

namespace FormState

theorem isTouched_touch_of_ne (s : FormState) {name other : String} (h : other ≠ name) :
    (s.touch name).isTouched other = s.isTouched other := by
  unfold touch
  split
  · rfl
  · simp [isTouched, h]

theorem isTouched_changed (s : FormState) (name : String) (value data : Json) :
    (s.changed name value data).isTouched name = true :=
  isTouched_touch _ name

theorem isTouched_changed_of_ne (s : FormState) {name other : String} (h : other ≠ name)
    (value data : Json) : (s.changed name value data).isTouched other = s.isTouched other :=
  isTouched_touch_of_ne _ h

end FormState

namespace Engine

variable {e : Engine}

/-- The fields of the form. -/
def fields (e : Engine) : List FieldDefinition :=
  match e.definition with
  | some d => d.fields
  | none => []

/-- The fields of a coherent engine have identifiers of their own. -/
theorem nodup_fields (h : e.content.Coherent) : (e.fields.map FieldDefinition.id).Nodup := by
  unfold fields
  split
  · rename_i d hd
    exact FormDefinition.nodup_of_check (h.accepted d hd)
  · exact List.nodup_nil

theorem currentVisibility_eq (e : Engine) :
    e.currentVisibility = visibilityMap e.fields e.state.data := by
  cases hd : e.definition with
  | none => simp only [currentVisibility, fields, hd]; rfl
  | some d => simp only [currentVisibility, fields, hd]

/-- New data flip the fields that they show and the old ones do not, and the other way round. -/
theorem exists_flips (h : e.content.Coherent) (state : FormState) :
    ∃ flipped, ({ e with state := state }).flips =
        flipped.map (fun entry => .visibilityChange entry.1 entry.2) ∧
      Differs e.fields e.state.data state.data flipped := by
  have hshown : e.visibility = visibilityMap e.fields e.state.data :=
    h.shown.trans (currentVisibility_eq e)
  refine ⟨_, rfl, ?_⟩
  simp only [currentVisibility_eq, isVisible, hshown]
  exact differs_visibilityMap (nodup_fields h) _ _

@[simp] theorem touched_refreshVisibility (e : Engine) :
    e.refreshVisibility.state.touched = e.state.touched := by
  refine (foldl_keeps (fun e : Engine => e.state.touched) ?_ _ _).trans rfl
  rintro e ⟨id, visible⟩
  rfl

@[simp] theorem touched_validateNamed (e : Engine) (name : String) :
    (e.validateNamed name).state.touched = e.state.touched := by
  unfold validateNamed
  split
  · rfl
  · dsimp only
    split <;> rfl

/-- A validation of one field tells of the error under the name, if it is another one. -/
theorem drain_validateNamed {name : String} {field : FieldDefinition}
    (h : (e.definition.bind fun d => d.fieldNamed? name) = some field) :
    (e.validateNamed name).drain.1 = e.drain.1 ++
      if e.state.error? name = e.validator.complaint e.state.data field then []
      else [.errorChange name (e.validator.complaint e.state.data field)
        (e.validateNamed name).state.errors] := by
  obtain ⟨d, -, hnamed⟩ := Option.bind_eq_some_iff.mp h
  have hname : field.name = name := FormDefinition.name_of_fieldNamed? hnamed
  subst hname
  have hsaid : (e.validator.validateField field (e.state.value? field.name) e.state.data).1 =
      e.validator.complaint e.state.data field := rfl
  have hkept := e.validator.filter_validateField field (e.state.value? field.name) e.state.data
  simp only [validateNamed, h]
  rw [hsaid] at hkept ⊢
  split
  · exact (List.append_nil _).symm
  · simp only [drain, FormState.drain, FormState.setError, FormState.queue, hkept,
      List.append_assoc]

/-! ### New data -/

variable {e' : Engine} {name : String} {value : Json} {events : List FormEvent} {state : FormState}

/-- The engine with another state, and what is shown with its data. Nothing is validated yet. -/
def filled (e : Engine) (state : FormState) : Engine :=
  ({ e with state := state }).refreshVisibility

@[simp] theorem content_filled (e : Engine) (state : FormState) :
    (e.filled state).content =
      { e.content with
        data := state.data
        visibility := ({ e.content with data := state.data }).shown } :=
  content_refreshVisibility { e with state := state }

theorem findings_filled (h : state.errors = e.state.errors) :
    (e.filled state).findings = e.findings :=
  (findings_refreshVisibility { e with state := state }).trans (findings_withState e h)

/-- After a change the fields are validated where the options ask for it. -/
theorem follow_eq (e : Engine) (state : FormState) (names : List String) :
    ({ e with state := state }).follow names =
      (if e.options.validateOnChange then names.foldl validateNamed (e.filled state)
        else e.filled state).rebuild := by
  have hoptions : (e.filled state).options = e.options :=
    congrArg Content.options (content_filled e state)
  show (if (e.filled state).options.validateOnChange then _ else _ : Engine).rebuild = _
  rw [hoptions]
  rfl

@[simp] theorem touched_follow (e : Engine) (names : List String) :
    (e.follow names).state.touched = e.state.touched := by
  have hrefreshed := touched_refreshVisibility e
  simp only [follow]
  split
  · have hvalidated := foldl_keeps (fun e : Engine => e.state.touched) touched_validateNamed names
      e.refreshVisibility
    exact hvalidated.trans hrefreshed
  · exact hrefreshed

/-- A state that queued events tells of them, and then of the fields that its data flip. -/
theorem drain_filled (h : e.content.Coherent) (hqueued : state.pending = e.state.pending ++ events) :
    ∃ flipped, (e.filled state).drain.1 =
        e.drain.1 ++ (events ++ flipped.map fun entry => .visibilityChange entry.1 entry.2) ∧
      Differs e.fields e.state.data state.data flipped := by
  have hput : ({ e with state := state }).drain.1 = e.drain.1 ++ events := by
    show e.outbox ++ state.pending = e.outbox ++ e.state.pending ++ events
    rw [hqueued, List.append_assoc]
  obtain ⟨flipped, hflips, hdiffers⟩ := exists_flips h state
  refine ⟨flipped, ?_, hdiffers⟩
  rw [filled, drain_refreshVisibility, hput, hflips, List.append_assoc]

/-! ### A change as a whole -/

/-- A validation after a change finds an error under the name that is not the one that is stored, or
finds none where one is stored. -/
def FindsAnew (e : Engine) (name : String) (data : Json) (error : Option String) : Prop :=
  e.options.validateOnChange = true ∧
    ∃ field, (e.definition.bind fun d => d.fieldNamed? name) = some field ∧
      e.validator.complaint data field = error ∧ error ≠ e.state.error? name

/-- A change took one engine to another, and told of the value, of each field that it flipped, and
of the error under the name if this is another one. The rest is as it was. -/
structure Edited (e : Engine) (name : String) (value : Json) (events : List FormEvent)
    (e' : Engine) : Prop where
  told : ∃ flipped found,
    events = .fieldChange name value e'.state.data ::
      flipped.map (fun entry => .visibilityChange entry.1 entry.2) ++ found ∧
    Differs e.fields e.state.data e'.state.data flipped ∧
    ((∃ error, e.FindsAnew name e'.state.data error ∧
        found = [.errorChange name error e'.state.errors]) ∨
      found = [] ∧ ∀ error, ¬ e.FindsAnew name e'.state.data error)
  data : e.state.data.set? name value = some e'.state.data
  marked : e'.state.isTouched name = true
  definition : e'.definition = e.definition
  status : e'.status = e.status
  message : e'.message = e.message
  seeded : e'.seeded = e.seeded
  errors : ∀ other, other ≠ name → e'.state.error? other = e.state.error? other
  touched : ∀ other, other ≠ name → e'.state.isTouched other = e.state.isTouched other

/-- Taking the events afterwards leaves it a change. -/
theorem Edited.drain (h : e.Edited name value events e') : e.Edited name value events e'.drain.2 :=
  ⟨h.told, h.data, h.marked, h.definition, h.status, h.message, h.seeded, h.errors, h.touched⟩

/-- Errors under other names stay. -/
theorem error?_follow_of_ne (herrors : state.errors = e.state.errors) {other : String}
    (h : other ≠ name) :
    (({ e with state := state }).follow [name]).state.error? other = e.state.error? other := by
  have hfilled : (e.filled state).state.error? other = e.state.error? other :=
    congrArg (fun f : Findings => Keyed.find? f.errors other) (findings_filled herrors)
  rw [follow_eq]
  split
  · exact (error?_validateNamed_of_ne _ h).trans hfilled
  · exact hfilled

/-- What a change tells after the fields that it flips. -/
theorem exists_found (herrors : state.errors = e.state.errors) (name : String) :
    ∃ found, (({ e with state := state }).follow [name]).drain.1 =
        (e.filled state).drain.1 ++ found ∧
      ((∃ error, e.FindsAnew name state.data error ∧ found =
          [.errorChange name error (({ e with state := state }).follow [name]).state.errors]) ∨
        found = [] ∧ ∀ error, ¬ e.FindsAnew name state.data error) := by
  have hvalidator : (e.filled state).validator = e.validator :=
    congrArg Findings.validator (findings_filled herrors)
  have hstored : (e.filled state).state.error? name = e.state.error? name :=
    congrArg (fun f : Findings => Keyed.find? f.errors name) (findings_filled herrors)
  have hdefinition : (e.filled state).definition = e.definition :=
    congrArg Content.definition (content_filled e state)
  have hdata : (e.filled state).state.data = state.data :=
    congrArg Content.data (content_filled e state)
  rw [follow_eq]
  by_cases hasked : e.options.validateOnChange = true
  · rw [if_pos hasked, drain_rebuild, List.foldl_cons, List.foldl_nil]
    cases hfield : e.definition.bind fun d => d.fieldNamed? name with
    | none =>
      have hnone := hdefinition.symm ▸ hfield
      rw [validateNamed_of_none hnone]
      refine ⟨[], (List.append_nil _).symm, .inr ⟨rfl, ?_⟩⟩
      rintro error ⟨-, field, hsome, -⟩
      rw [hfield] at hsome
      cases hsome
    | some field =>
      have hsome := hdefinition.symm ▸ hfield
      rw [drain_validateNamed hsome, hvalidator, hstored, hdata]
      refine ⟨_, rfl, ?_⟩
      split
      · rename_i hsame
        refine .inr ⟨rfl, ?_⟩
        rintro error ⟨-, other, hother, rfl, hne⟩
        rw [hfield] at hother
        cases hother
        exact hne hsame.symm
      · rename_i hother
        exact .inl ⟨_, ⟨hasked, field, hfield, rfl, Ne.symm hother⟩, rfl⟩
  · rw [if_neg hasked, drain_rebuild]
    exact ⟨[], (List.append_nil _).symm, .inr ⟨rfl, fun error h => hasked h.1⟩⟩

/-- A change of a coherent engine tells of what it does, and of nothing else. -/
theorem edited_setValue (hcoherent : e.content.Coherent) (hsettled : e.Settled)
    (h : e.setValue name value = some e') : e.Edited name value e'.drain.1 e' := by
  obtain ⟨state, hstate, rfl⟩ := Option.map_eq_some_iff.mp h
  obtain ⟨data, hput, rfl⟩ := FormState.setValue_eq_some_iff.mp hstate
  have hqueued := e.state.pending_changed name value data
  have hdata := e.state.data_changed name value data
  have herrors := e.state.errors_changed name value data
  have hmarked := e.state.isTouched_changed name value data
  have hothers {other : String} (hother : other ≠ name) :=
    e.state.isTouched_changed_of_ne hother value data
  -- From here on the state counts only by what was said of it.
  generalize e.state.changed name value data = state at *
  have hcontent := content_follow { e with state := state } [name]
  have hkept : (({ e with state := state }).follow [name]).state.data = data :=
    (congrArg Content.data hcontent).trans hdata
  obtain ⟨flipped, hfilled, hdiffers⟩ := drain_filled hcoherent hqueued
  obtain ⟨found, htold, hfound⟩ := exists_found herrors name
  rw [hfilled, show e.drain.1 = [] from hsettled, List.nil_append] at htold
  rw [hdata] at hdiffers hfound
  exact {
    told := ⟨flipped, found, by rw [hkept]; exact htold, hkept ▸ hdiffers, hkept ▸ hfound⟩
    data := hkept ▸ hput
    marked := by
      rw [FormState.isTouched, touched_follow]
      exact hmarked
    definition := congrArg Content.definition hcontent
    status := congrArg Progress.status (progress_follow _ _)
    message := congrArg Notice.message (notice_follow _ _)
    seeded := congrArg Content.seeded hcontent
    errors := by
      intro other hother
      exact error?_follow_of_ne herrors hother
    touched := by
      intro other hother
      rw [FormState.isTouched, touched_follow]
      exact hothers hother }

end Engine

end LiveForm
