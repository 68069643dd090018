import LiveForm.Proofs.Engine.Drawing
import LiveForm.Proofs.Engine.Findings
import LiveForm.Proofs.Engine.Telling

/-!
# Where errors come from

An error that is stored after an operation was stored before and is kept, and then the operation
tells of no event by which errors go; or it was found by the operation, and then it has a message
and stands under the name of a field of the form (`Engine.Blames`). This holds of every operation
but one. A form that is taken up keeps all errors, also those that are not about its fields.
-/

namespace LiveForm

/-- The event tells that all errors were taken away. -/
def FormEvent.clearsErrors : FormEvent → Bool
  | errorsCleared | formReset => true
  | _ => false

namespace Engine

/-- A field of the form has the name. -/
def Named (e : Engine) (name : String) : Prop :=
  ∃ d, e.definition = some d ∧ ∃ f ∈ d.fields, f.name = name

/-- What is stored after events was found wrong with a field of the form, or was there before and no
event took it away. -/
structure Blamed (e : Engine) (events : List FormEvent) (e' : Engine) : Prop where
  definition : e'.definition = e.definition
  errors : ∀ entry ∈ e'.state.errors, e.Named entry.1 ∧ entry.2 ≠ "" ∨
    entry ∈ e.state.errors ∧ ∀ event ∈ events, event.clearsErrors = false

/-- What was queued on the way from one engine to another goes with what is stored. -/
def Blames (e e' : Engine) : Prop :=
  ∃ events, e'.drain.1 = e.drain.1 ++ events ∧ e.Blamed events e'

variable {e mid e' : Engine} {events later : List FormEvent}

theorem Blamed.trans (hfirst : e.Blamed events mid) (hlast : mid.Blamed later e') :
    e.Blamed (events ++ later) e' := by
  refine ⟨hlast.definition.trans hfirst.definition, fun entry hentry => ?_⟩
  rcases hlast.errors entry hentry with ⟨⟨d, hmid, hnamed⟩, hne⟩ | ⟨hkept, hlaterKeeps⟩
  · exact .inl ⟨⟨d, hfirst.definition ▸ hmid, hnamed⟩, hne⟩
  · rcases hfirst.errors entry hkept with hnew | ⟨hbefore, hkeeps⟩
    · exact .inl hnew
    · refine .inr ⟨hbefore, fun event hevent => ?_⟩
      rcases List.mem_append.mp hevent with hevent | hevent
      · exact hkeeps event hevent
      · exact hlaterKeeps event hevent

/-- What is kept is blamed on nothing, where no event tells that errors went. -/
theorem blamed_of_kept (hdefinition : e'.definition = e.definition)
    (herrors : e'.state.errors = e.state.errors)
    (hkeeps : ∀ event ∈ events, event.clearsErrors = false) : e.Blamed events e' :=
  ⟨hdefinition, fun _ hentry => .inr ⟨herrors ▸ hentry, hkeeps⟩⟩

theorem Blames.trans (hfirst : e.Blames mid) (hlast : mid.Blames e') : e.Blames e' := by
  obtain ⟨events, hqueued, hblamed⟩ := hfirst
  obtain ⟨later, hlater, hblamed'⟩ := hlast
  exact ⟨events ++ later, by rw [hlater, hqueued, List.append_assoc], hblamed.trans hblamed'⟩

/-- Where nothing waited, all that a change gives out goes with what is stored. -/
theorem Blames.told (hsettled : e.Settled) (h : e.Blames e') :
    e.Blamed e'.drain.1 e'.drain.2 := by
  obtain ⟨events, hqueued, hblamed⟩ := h
  rw [hqueued, show e.drain.1 = [] from hsettled]
  exact ⟨hblamed.definition, hblamed.errors⟩

theorem blames_of_kept (hqueued : e'.drain.1 = e.drain.1 ++ events)
    (hkeeps : ∀ event ∈ events, event.clearsErrors = false)
    (hdefinition : e'.definition = e.definition) (herrors : e'.state.errors = e.state.errors) :
    e.Blames e' :=
  ⟨events, hqueued, blamed_of_kept hdefinition herrors hkeeps⟩

/-- What tells of nothing and keeps the errors blames nothing on the form. -/
theorem blames_of_eq (hqueued : e'.drain.1 = e.drain.1) (hdefinition : e'.definition = e.definition)
    (herrors : e'.state.errors = e.state.errors) : e.Blames e' :=
  ⟨[], by rw [hqueued, List.append_nil], blamed_of_kept hdefinition herrors nofun⟩

theorem Blames.refl (e : Engine) : e.Blames e := blames_of_eq rfl rfl rfl

theorem blames_push (e : Engine) {event : FormEvent} (h : event.clearsErrors = false) :
    e.Blames (e.push event) := by
  refine blames_of_kept (drain_push e event) ?_ rfl rfl
  intro other hother
  rw [List.mem_singleton.mp hother]
  exact h

theorem blames_setStatus (e : Engine) (status : FormStatus) : e.Blames (e.setStatus status) := by
  unfold setStatus
  split
  · exact .refl e
  · have hset : e.Blames { e with status := status } := blames_of_eq rfl rfl rfl
    exact hset.trans (blames_push _ rfl)

theorem blames_showMessage (e : Engine) (text : String) (kind : MessageKind) :
    e.Blames (e.showMessage text kind) := by
  have hdefinition := congrArg Content.definition (content_showMessage e text kind)
  refine blames_of_kept (drain_showMessage e text kind) ?_ hdefinition
    (congrArg Findings.errors (findings_showMessage e text kind))
  intro event hevent
  rw [List.mem_singleton.mp hevent]
  rfl

theorem blames_rebuild (e : Engine) : e.Blames e.rebuild := blames_of_eq (drain_rebuild e) rfl rfl

theorem blames_refreshVisibility (e : Engine) : e.Blames e.refreshVisibility := by
  have hdefinition := congrArg Content.definition (content_refreshVisibility e)
  refine blames_of_kept (drain_refreshVisibility e) ?_ hdefinition
    (congrArg Findings.errors (findings_refreshVisibility e))
  intro event hevent
  obtain ⟨entry, -, rfl⟩ := List.mem_map.mp hevent
  rfl

/-! ### Changes of the state -/

/-- A value that is put in keeps the errors, and its event tells of the value alone. -/
theorem blames_changed (e : Engine) (name : String) (value data : Json) :
    e.Blames { e with state := e.state.changed name value data } := by
  have hqueued : ({ e with state := e.state.changed name value data }).drain.1 =
      e.drain.1 ++ [.fieldChange name value data] := by
    show e.outbox ++ (e.state.changed name value data).pending = e.outbox ++ e.state.pending ++ _
    rw [FormState.pending_changed, List.append_assoc]
  refine blames_of_kept hqueued ?_ rfl (e.state.errors_changed name value data)
  intro event hevent
  rw [List.mem_singleton.mp hevent]
  rfl

theorem blames_fill (e : Engine) {values : Keyed Json} {state : FormState}
    (h : e.state.fill values = some state) : e.Blames { e with state := state } :=
  FormState.fill_keeps (P := fun s => e.Blames { e with state := s })
    (fun s name value data _ hmid =>
      hmid.trans (blames_changed { e with state := s } name value data)) h (.refl e)

theorem blames_touch (e : Engine) (name : String) :
    e.Blames { e with state := e.state.touch name } := by
  refine blames_of_eq ?_ rfl (e.state.errors_touch name)
  show e.outbox ++ (e.state.touch name).pending = _
  rw [FormState.pending_touch]
  rfl

/-! ### Validations -/

/-- A validation of one field keeps the errors under other names, and finds something wrong with a
field of the form, or nothing. -/
theorem blames_validateNamed (e : Engine) (name : String) : e.Blames (e.validateNamed name) := by
  cases hfield : e.definition.bind fun d => d.fieldNamed? name with
  | none =>
    rw [validateNamed_of_none hfield]
    exact .refl e
  | some field =>
    obtain ⟨d, hd, hnamed⟩ := Option.bind_eq_some_iff.mp hfield
    have hmem : field ∈ d.fields := List.mem_of_find?_eq_some hnamed
    have hname : e.Named name := ⟨d, hd, field, hmem, FormDefinition.name_of_fieldNamed? hnamed⟩
    simp only [validateNamed, hfield]
    generalize (e.validator.validateField field (e.state.value? name) e.state.data).2 = validator
    generalize (e.validator.validateField field (e.state.value? name) e.state.data).1 = error
    split
    · exact blames_of_eq rfl rfl rfl
    · refine ⟨[_], (List.append_assoc _ _ _).symm, rfl, fun entry hentry => ?_⟩
      rcases FormState.mem_errors_setError hentry with ⟨hthis, hne⟩ | hbefore
      · exact .inl ⟨hthis ▸ hname, hne⟩
      · refine .inr ⟨hbefore, fun event hevent => ?_⟩
        rw [List.mem_singleton.mp hevent]
        rfl

theorem blames_foldl_validateNamed (names : List String) (e : Engine) :
    e.Blames (names.foldl validateNamed e) := by
  induction names generalizing e with
  | nil => exact .refl e
  | cons name rest ih => exact (e.blames_validateNamed name).trans (ih (e.validateNamed name))

/-- A full validation puts what it finds wrong with the fields of the form in place of all errors.
-/
theorem blames_writeErrors (e : Engine) : e.Blames e.writeErrors.2 := by
  obtain ⟨events, hqueued, -⟩ := e.tells_writeErrors
  have hdefinition : e.writeErrors.2.definition = e.definition :=
    congrArg Content.definition (content_writeErrors e)
  -- Nothing that was stored before is kept, so that the events do not matter.
  refine ⟨events, hqueued, ⟨hdefinition, fun entry hentry => .inl ?_⟩⟩
  cases hd : e.definition with
  | none =>
    have herrors : e.writeErrors.2.state.errors = [] :=
      congrArg Findings.errors (findings_writeErrors_none hd)
    rw [herrors] at hentry
    cases hentry
  | some d =>
    have herrors : e.writeErrors.2.state.errors = _ :=
      congrArg Findings.errors (findings_writeErrors hd)
    rw [herrors] at hentry
    obtain ⟨⟨field, hfield, hname⟩, hne⟩ := e.validator.mem_of_mem_validateAll _ hentry
    exact ⟨⟨d, hd, field, inScope_subset e d hfield, hname⟩, hne⟩

/-- A reset leaves no error. -/
theorem blames_reset (e : Engine) : e.Blames e.reset := by
  have hemptied : e.Blames { e with state := e.state.reset } :=
    ⟨[.formReset], (List.append_assoc _ _ _).symm, ⟨rfl, nofun⟩⟩
  exact ((hemptied.trans (blames_refreshVisibility _)).trans (blames_rebuild _)).trans
    (blames_push _ rfl)

/-! ### Calls that are done at once -/

theorem blames_follow (e : Engine) (names : List String) : e.Blames (e.follow names) := by
  have hrefreshed := blames_refreshVisibility e
  simp only [follow]
  refine Blames.trans ?_ (blames_rebuild _)
  split
  · exact hrefreshed.trans (blames_foldl_validateNamed names _)
  · exact hrefreshed

theorem blames_blur (e : Engine) (name : String) : e.Blames (e.blur name) := by
  have htouched := e.blames_touch name
  simp only [blur]
  split
  · exact (htouched.trans (blames_validateNamed _ name)).trans (blames_rebuild _)
  · exact htouched

theorem blames_render (e : Engine) : e.Blames e.render := by
  simp only [render]
  split
  · exact (blames_rebuild e).trans (blames_push _ rfl)
  · exact blames_rebuild e

/-- Every call that is done at once keeps errors, or finds them wrong with the form. -/
theorem blames_perform {call : EngineCall} {answer : Bool}
    (h : e.perform call = some (answer, e')) : e.Blames e' :=
  perform_cases h (fun _ _ hstate => (blames_fill e hstate).trans (blames_follow _ _))
    (blames_blur e) (blames_writeErrors e) (blames_reset e) (blames_render e)

/-! ### Loads and submissions -/

theorem blames_failLoad (e : Engine) (error : FormError) : e.Blames (e.failLoad error) :=
  ((blames_setStatus e .loadError).trans (blames_showMessage _ _ _)).trans (blames_push _ rfl)

theorem blames_prepare (e : Engine) : e.Blames e.prepare.2 := by
  unfold prepare
  split
  · exact .refl e
  · split
    · dsimp only
      split
      · exact (blames_writeErrors e).trans (blames_setStatus _ .submitting)
      · exact ((blames_writeErrors e).trans (blames_push _ rfl)).trans (blames_showMessage _ _ _)
    · exact .refl e

theorem blames_accept (e : Engine) (payload : Payload) (response : SubmitResponse) :
    e.Blames (e.accept payload response) := by
  simp only [accept]
  generalize (if Text.isBlank response.message then submittedText else response.message) = text
  have hquiet : (FormEvent.formSubmitted payload.data response.toJson).clearsErrors = false := rfl
  have htold := ((blames_setStatus e .submitted).trans (blames_push _ hquiet)).trans
    (blames_showMessage _ text .success)
  split
  · exact htold.trans (blames_reset _)
  · exact htold

theorem blames_reject (e : Engine) (reason : String) : e.Blames (e.reject reason) :=
  ((blames_setStatus e .submitError).trans (blames_showMessage _ _ _)).trans (blames_push _ rfl)

theorem blames_beginLoad (e : Engine) :
    ∃ started : Engine, e.beginLoad.2 = started.drain ∧ e.Blames started := by
  have hcounted : e.Blames { e with loads := e.loads + 1 } := blames_of_eq rfl rfl rfl
  have hloading := hcounted.trans (blames_setStatus _ .loading)
  refine ⟨_, rfl, ?_⟩
  split
  · exact hloading.trans (blames_showMessage _ _ _)
  · exact hloading

/-! ### Forms that are taken up -/

theorem drain_seedDefaults {fields : List FieldDefinition} (h : e.seedDefaults fields = some e') :
    e'.drain.1 = e.drain.1 := by
  refine seedDefaults_keeps (P := fun x => x.drain.1 = e.drain.1) ?_ h rfl
  intro mid id name value put state hput hmid
  rcases FormState.seed_cases hput with ⟨-, -, rfl⟩ | ⟨-, -, data, -, rfl⟩ <;> exact hmid

theorem drain_displayed (e : Engine) : e.displayed.drain.1 = e.drain.1 ++ [.formRendered] := by
  rw [displayed, drain_push, drain_rebuild]
  rfl

variable {d : FormDefinition}

/-- A form that is taken up tells of a fresh view, of the status and of itself. -/
theorem drain_install (h : e.install d = some e') :
    e'.drain.1 = e.drain.1 ++ ([.formRendered] ++
      (if e.status = .ready then [] else [.statusChange e.status .ready]) ++
        [.formLoaded d.formId d.name]) := by
  obtain ⟨sown, hsown, rfl⟩ := install_eq_some_iff.mp h
  have hdisplayed : sown.displayed.drain.1 = e.drain.1 ++ [.formRendered] := by
    rw [drain_displayed, drain_seedDefaults hsown]
    rfl
  have hstatus : sown.displayed.status = e.status :=
    congrArg Progress.status (progress_seedDefaults hsown)
  have hcleared : sown.displayed.clearMessage.status = e.status :=
    (congrArg Progress.status (progress_clearMessage sown.displayed)).trans hstatus
  rw [present_eq, drain_push, drain_setStatus]
  split
  · rw [drain_clearMessage, hdisplayed, hcleared]
    simp only [List.append_assoc]
  · rw [hdisplayed, hstatus]
    simp only [List.append_assoc]

/-- A form that is taken up tells of no event by which errors go. -/
theorem clearsErrors_install (h : e.install d = some e') :
    ∃ events, e'.drain.1 = e.drain.1 ++ events ∧
      ∀ event ∈ events, event.clearsErrors = false := by
  refine ⟨_, drain_install h, fun event hevent => ?_⟩
  simp only [List.mem_append, List.mem_singleton] at hevent
  rcases hevent with (rfl | hstatus) | rfl
  · rfl
  · split at hstatus
    · cases hstatus
    · rw [List.mem_singleton.mp hstatus]
      rfl
  · rfl

end Engine

end LiveForm
