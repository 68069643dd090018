import LiveForm.Proofs.Engine.Edits
import LiveForm.Proofs.Session.View

/-!
# What is found wrong after a change

Where the options ask for it, a change validates the first field with the name and stores what is
wrong under the name. A full pass validates all fields with the name, and the last complaint counts.
Fields of one name are allowed, only identifiers are unique, so that the two can differ; and where
no field has the name, the change leaves what was stored. Apart from these they agree
(`Run.error_setValue`), for what a validator keeps of earlier validations never shows in what it
says of a field of the form.
-/

namespace LiveForm

namespace Engine

variable {e : Engine} {d : FormDefinition}

/-- A change, before the view is made anew. -/
theorem exists_setValue (hd : e.definition = some d) (hchange : e.options.validateOnChange = true)
    {name : String} {value : Json} {e' : Engine} (h : e.setValue name value = some e') :
    ∃ filled : Engine, filled.definition = some d ∧ filled.findings = e.findings ∧
      e' = (filled.validateNamed name).rebuild := by
  obtain ⟨state, hstate, rfl⟩ := Option.map_eq_some_iff.mp h
  obtain ⟨data, -, rfl⟩ := FormState.setValue_eq_some_iff.mp hstate
  have hcontent := content_filled e (e.state.changed name value data)
  refine ⟨_, (congrArg Content.definition hcontent).trans hd,
    findings_filled (e.state.errors_changed name value data), ?_⟩
  rw [follow_eq, if_pos hchange]
  rfl

/-- What is wrong with the data as they are, by the engine's validator. -/
def complaint (e : Engine) (field : FieldDefinition) : Option String :=
  e.validator.complaint e.state.data field

/-- After a validation of one name, what is stored under it is what is wrong with the first field
with the name. -/
theorem error?_validateNamed_eq (hd : e.definition = some d) (hv : e.validator.Grounded)
    (name : String) :
    (e.validateNamed name).state.error? name =
      ((d.fieldNamed? name).map (e.validateNamed name).complaint).getD (e.state.error? name) := by
  cases hfield : d.fieldNamed? name with
  | none =>
    have hnone : (e.definition.bind fun d => d.fieldNamed? name) = none := by rw [hd]; exact hfield
    rw [validateNamed_of_none hnone]
    rfl
  | some field =>
    have hsome : (e.definition.bind fun d => d.fieldNamed? name) = some field := by
      rw [hd]; exact hfield
    have hname : field.name = name := FormDefinition.name_of_fieldNamed? hfield
    have hdata : (e.validateNamed name).state.data = e.state.data :=
      congrArg Content.data (content_validateNamed e name)
    obtain ⟨done, hdone⟩ := hv
    rw [error?_validateNamed hsome, Option.map_some, Option.getD_some, complaint, hdata,
      validator_validateNamed hsome, hdone.complaint_validateField _ _ _ fun _ => rfl]
    subst hname
    rfl

end Engine

namespace Session

variable {options : EngineOptions} {timed : Bool} {s next : Session} {move : Move}
  {events : List FormEvent} {trace : List Turn}

/-- Every step keeps what the validator keeps grounded. -/
theorem Step.grounded (h : Step s move events next) (hs : s.engine.validator.Grounded) :
    next.engine.validator.Grounded := by
  cases h with
  | call hobey =>
    obtain ⟨done, hdone, -, rfl⟩ := Engine.obey_eq_some_iff.mp hobey
    have hkept := Engine.grounded_perform hs hdone
    exact hkept
  | addRule name rule => exact hs.addRule name rule
  | expire message =>
    exact Engine.grounded_of_findings hs (congrArg _ (s.engine.findings_expire message))
  | startLoad source hn =>
    exact Engine.grounded_of_findings hs (congrArg _ s.engine.findings_beginLoad)
  | finishLoad n answer hstage hfinish => exact Engine.grounded_finishLoad hs hfinish
  | enter hi hflag =>
    rw [(Engine.acquire_eq_some.mp hflag).2]
    exact hs
  | prepare i hstage hbegin => exact Engine.grounded_prepare hs
  | refuse i hstage hbegin => exact Engine.grounded_prepare hs
  | @answer i formId payload answer hstage =>
    cases answer with
    | ok response =>
      refine Engine.grounded_of_findings (e := s.engine) hs ?_
      show (s.engine.accept payload response).findings.validator = _
      rw [Engine.findings_accept]
      split <;> rfl
    | error error =>
      exact Engine.grounded_of_findings hs (congrArg _ (s.engine.findings_reject error.message))
  | _ => exact hs

/-- What the validator of a session keeps was made of fields that it validated. -/
theorem Run.grounded (hrun : Run (.fresh options timed) trace s) : s.engine.validator.Grounded :=
  hrun.keeps (fun _ _ _ _ hs h => h.grounded hs) ⟨[], PatternCache.faithful_nil, fun _ => rfl⟩

/-- Where there is at most one, the last complaint is that of the first. -/
theorem getLast?_filterMap_of_length_le_one {fields : List FieldDefinition}
    (h : fields.length ≤ 1) (f : FieldDefinition → Option String) :
    (fields.filterMap f).getLast? = fields.head?.bind f := by
  cases fields with
  | nil => rfl
  | cons field rest =>
    rw [List.length_cons] at h
    have hrest : rest = [] := List.length_eq_zero_iff.mp (by omega)
    subst hrest
    cases hfield : f field with
    | none => rw [List.filterMap_cons_none hfield, List.head?_cons, Option.bind_some, hfield]; rfl
    | some message =>
      rw [List.filterMap_cons_some hfield, List.head?_cons, Option.bind_some, hfield]
      rfl

/-- After a change that is validated, what is stored under the name is what is wrong with the first
field with the name, or what was stored before if there is none. What a full pass of all fields says
under the name is the last complaint of the fields with the name. Both are the same where at most
one field has the name, and where nothing was stored under a name that no field has. What is stored
under other names stays. -/
theorem Run.error_setValue (hrun : Run (.fresh options timed) trace s)
    (hchange : options.validateOnChange = true) {d : FormDefinition}
    (hd : s.engine.definition = some d) {name : String} {value : Json}
    (hstep : Step s (.call (.setValue name value)) events next) :
    next.engine.definition = some d ∧
    next.engine.state.error? name =
      ((d.fieldNamed? name).map next.engine.complaint).getD (s.engine.state.error? name) ∧
    Keyed.find? (next.engine.validator.validateAll d.fields next.engine.state.data).1 name =
      ((d.fieldsNamed name).filterMap next.engine.complaint).getLast? ∧
    ((d.fieldsNamed name).length ≤ 1 →
      (d.fieldsNamed name = [] → s.engine.state.error? name = none) →
      next.engine.state.error? name = Keyed.find?
        (next.engine.validator.validateAll d.fields next.engine.state.data).1 name) ∧
    ∀ other, other ≠ name → next.engine.state.error? other = s.engine.state.error? other := by
  have hids := FormDefinition.nodup_of_check (hrun.coherent.accepted d hd)
  have hasked : s.engine.options.validateOnChange = true := by rw [hrun.options_eq]; exact hchange
  obtain ⟨filled, hfilled, hfindings, hnext⟩ : ∃ filled : Engine, filled.definition = some d ∧
      filled.findings = s.engine.findings ∧
      next.engine = (filled.validateNamed name).rebuild.drain.2 := by
    obtain ⟨done, hset, -, hnext⟩ := hstep.setValue_eq
    obtain ⟨filled, hfilled, hfindings, rfl⟩ := Engine.exists_setValue hd hasked hset
    exact ⟨filled, hfilled, hfindings, hnext.symm⟩
  have hgrounded : filled.validator.Grounded :=
    Engine.grounded_of_findings hrun.grounded (congrArg Findings.validator hfindings)
  have hbefore (other : String) : filled.state.error? other = s.engine.state.error? other :=
    congrArg (fun f : Findings => Keyed.find? f.errors other) hfindings
  -- Neither the new view nor the events that are taken have to do with errors.
  have herror : next.engine.state.error? name =
      ((d.fieldNamed? name).map next.engine.complaint).getD (s.engine.state.error? name) := by
    rw [hnext, ← hbefore]
    exact Engine.error?_validateNamed_eq hfilled hgrounded name
  have hpass : Keyed.find?
        (next.engine.validator.validateAll d.fields next.engine.state.data).1 name =
      ((d.fieldsNamed name).filterMap next.engine.complaint).getLast? := by
    obtain ⟨done, hdone⟩ := hstep.grounded hrun.grounded
    exact hdone.find?_validateAll hids name
  refine ⟨?_, herror, hpass, fun hone hnone => ?_, fun other hother => ?_⟩
  · rw [hnext]
    exact (congrArg Content.definition (filled.content_validateNamed name)).trans hfilled
  · rw [herror, hpass, d.fieldNamed?_eq, getLast?_filterMap_of_length_le_one hone]
    cases hfirst : (d.fieldsNamed name).head? with
    | none => exact hnone (List.head?_eq_none_iff.mp hfirst)
    | some field => rfl
  · rw [hnext, ← hbefore]
    exact filled.error?_validateNamed_of_ne hother

/-- A field whose value has to be given. -/
def requiredField (id name : String) : FieldDefinition :=
  { FieldDefinition.ofKind id .text with
    name := name, constraints := some { required := some true } }

/-- The note form with a text that has to be given. -/
def strictForm : FormDefinition := { noteForm with fields := [requiredField "text" "text"] }

/-- A text that is taken away is missed by the validation of its field and by the full pass. -/
theorem error_setValue_strictForm :
    ∃ trace s events next, Run (.fresh {} true) trace s ∧ s.engine.definition = some strictForm ∧
      Step s (.call (.setValue "text" (.str ""))) events next ∧
      next.engine.state.error? "text" = some "This field is required" ∧
      Keyed.find? (next.engine.validator.validateAll strictForm.fields
        next.engine.state.data).1 "text" = some "This field is required" := by
  obtain ⟨origin, hrun⟩ := run_loadedWith {} strictForm
  have hstep := step_calling (s := loadedWith {} strictForm) (.setValue "text" (.str ""))
    (by decide)
  obtain ⟨-, -, hpass, hagree, -⟩ := hrun.error_setValue rfl rfl hstep
  have hsaid : ((strictForm.fieldsNamed "text").filterMap
      ((loadedWith {} strictForm).calling (.setValue "text" (.str ""))).2.engine.complaint).getLast?
        = some "This field is required" := by decide
  have hentry := hpass.trans hsaid
  exact ⟨origin, _, _, _, hrun, rfl, hstep, (hagree (by decide) nofun).trans hentry, hentry⟩

/-- Two fields with one name, of which only the second one has to be given. -/
def twinForm : FormDefinition :=
  { noteForm with
    fields := [{ FieldDefinition.ofKind "a" .text with name := "x" }, requiredField "b" "x"] }

/-- A blank value is stored without a complaint where the first of two fields with the name may be
blank, and the full pass complains of the second. -/
theorem setValue_misses_second_field :
    ∃ trace s events next, Run (.fresh {} true) trace s ∧ s.engine.definition = some twinForm ∧
      Step s (.call (.setValue "x" (.str ""))) events next ∧
      next.engine.options.validateOnChange = true ∧
      next.engine.options.validationScope = .allFields ∧
      next.engine.state.error? "x" = none ∧
      Keyed.find? (next.engine.validator.validateAll twinForm.fields
        next.engine.state.data).1 "x" = some "This field is required" := by
  obtain ⟨origin, hrun⟩ := run_loadedWith {} twinForm
  exact ⟨origin, _, _, _, hrun, rfl, step_calling _ (by decide), rfl, rfl, by decide, by decide⟩

end Session

end LiveForm
