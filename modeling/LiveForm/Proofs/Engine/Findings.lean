import LiveForm.Proofs.Engine.Update
import LiveForm.Proofs.Rules.FullPass

/-!
# The validator of an engine and what it found wrong

`Engine.findings` is the part of an engine that has to do with errors: the validator and the errors
that are stored. Few operations touch it. A validation of one field asks the validator and stores
one error, or takes it away (`Engine.validateNamed`); a full validation puts other errors in place
of all (`Engine.writeErrors`); a reset takes them away. A form that is taken up leaves the errors as
they are. Each operation has an equation.

What a validator keeps for later was made of fields that it validated (`Validator.Grounded`),
whatever the engine does with it.
-/

namespace LiveForm

namespace FormState

/-- Values that are put in leave the errors. -/
theorem errors_fill {s s' : FormState} {values : Keyed Json} (h : s.fill values = some s') :
    s'.errors = s.errors :=
  fill_keeps (P := fun x => x.errors = s.errors)
    (fun mid name value data _ hmid => (mid.errors_changed name value data).trans hmid) h rfl

/-- The error at a name that was set is the one that it was set to, if this is not empty. -/
theorem error?_setError_self (s : FormState) (name : String) (error : Option String) :
    (s.setError name error).error? name = error.filter fun m => m ≠ "" := by
  simp only [error?, setError, queue]
  cases error.filter fun m => m ≠ "" with
  | some m => exact Keyed.find?_insert_self _ _ _
  | none => exact Keyed.find?_erase_self _ _

theorem error?_setError_of_ne (s : FormState) {name other : String} (h : other ≠ name)
    (error : Option String) : (s.setError name error).error? other = s.error? other := by
  simp only [error?, setError, queue]
  cases error.filter fun m => m ≠ "" with
  | some m => exact Keyed.find?_insert_of_ne _ h _
  | none => exact Keyed.find?_erase_of_ne _ h

/-- An error that is there after one was set is that one, or was there before. -/
theorem mem_errors_setError {s : FormState} {name : String} {error : Option String}
    {entry : String × String} (h : entry ∈ (s.setError name error).errors) :
    (name = entry.1 ∧ entry.2 ≠ "") ∨ entry ∈ s.errors := by
  simp only [setError, queue] at h
  split at h
  · rename_i m hkept
    rcases Keyed.eq_or_mem_of_mem_insert h with rfl | hbefore
    · exact .inl ⟨rfl, of_decide_eq_true (Option.filter_eq_some_iff.mp hkept).2⟩
    · exact .inr hbefore
  · exact .inr (List.mem_filter.mp h).1

/-- Errors that are set one after the other, each with a message. -/
theorem errors_foldl_setError {errors : Errors} (h : ∀ entry ∈ errors, entry.2 ≠ "")
    (s : FormState) :
    (errors.foldl (fun s (name, error) => s.setError name (some error)) s).errors =
      errors.foldl (fun m entry => Keyed.insert m entry.1 entry.2) s.errors := by
  induction errors generalizing s with
  | nil => rfl
  | cons entry rest ih =>
    have hfirst : (s.setError entry.1 (some entry.2)).errors =
        Keyed.insert s.errors entry.1 entry.2 := by
      have hkept : (some entry.2).filter (fun m => m ≠ "") = some entry.2 :=
        Option.filter_eq_some_iff.mpr ⟨rfl, decide_eq_true (h entry List.mem_cons_self)⟩
      simp only [setError, queue, hkept]
    have hrest : ∀ other ∈ rest, other.2 ≠ "" :=
      fun other hother => h other (List.mem_cons_of_mem _ hother)
    rw [List.foldl_cons, List.foldl_cons, ih hrest]
    exact congrArg (rest.foldl _) hfirst

end FormState

/-! ## Validators -/

namespace Validator

/-- What the validator keeps was made of fields that it validated. -/
def Grounded (v : Validator) : Prop := ∃ done, v.Recalls done

variable {v : Validator}

theorem Grounded.addRule (h : v.Grounded) (name : String) (rule : HostRule) :
    (v.addRule name rule).Grounded := by
  obtain ⟨done, hdone⟩ := h
  exact ⟨done, hdone.patterns, hdone.options⟩

theorem Grounded.validateField (h : v.Grounded) (field : FieldDefinition) (value : Option Json)
    (data : Json) : (v.validateField field value data).2.Grounded := by
  obtain ⟨done, hdone⟩ := h
  exact ⟨_, (hdone.validateField field value data).2.2⟩

theorem Grounded.validateAll (h : v.Grounded) (fields : List FieldDefinition) (data : Json) :
    (v.validateAll fields data).2.Grounded := by
  obtain ⟨done, hdone⟩ := h
  exact ⟨_, (hdone.gather [] fields).2⟩

theorem Grounded.checkPatterns (h : v.Grounded) (d : FormDefinition) :
    (v.checkPatterns d).2.Grounded := by
  obtain ⟨done, hdone⟩ := h
  exact ⟨done, (hdone.checkFields d.fields).2⟩

/-- Which patterns are kept does not show in what the validator says. -/
theorem Grounded.validateField_patterns (h : v.Grounded) {patterns : PatternCache}
    (hpatterns : patterns.Faithful) (field : FieldDefinition) (value : Option Json) (data : Json) :
    (({ v with patterns := patterns } : Validator).validateField field value data).1 =
      (v.validateField field value data).1 := by
  obtain ⟨done, hdone⟩ := h
  have hother : ({ v with patterns := patterns } : Validator).Recalls done :=
    ⟨hpatterns, hdone.options⟩
  rw [(hother.validateField field value data).1, (hdone.validateField field value data).1]

end Validator

/-! ## Operations -/

/-- A validator with the errors that are stored. -/
structure Findings where
  validator : Validator
  errors : Errors

namespace Engine

/-- The validator of the engine, and what it found wrong. -/
def findings (e : Engine) : Findings := ⟨e.validator, e.state.errors⟩

variable {e e' : Engine}

@[simp] theorem findings_push (e : Engine) (event : FormEvent) :
    (e.push event).findings = e.findings := rfl

@[simp] theorem findings_drain (e : Engine) : e.drain.2.findings = e.findings := rfl

@[simp] theorem findings_rebuild (e : Engine) : e.rebuild.findings = e.findings := rfl

@[simp] theorem findings_setStatus (e : Engine) (status : FormStatus) :
    (e.setStatus status).findings = e.findings := by
  unfold setStatus; split <;> rfl

@[simp] theorem findings_refreshVisibility (e : Engine) :
    e.refreshVisibility.findings = e.findings := by
  refine (foldl_keeps findings ?_ _ _).trans rfl
  rintro e ⟨id, visible⟩
  rfl

@[simp] theorem findings_showMessage (e : Engine) (text : String) (kind : MessageKind) :
    (e.showMessage text kind).findings = e.findings := by
  simp only [showMessage]
  split <;> rfl

@[simp] theorem findings_clearMessage (e : Engine) : e.clearMessage.findings = e.findings := by
  unfold clearMessage; split <;> rfl

@[simp] theorem findings_expire (e : Engine) (id : Nat) :
    (e.expire id).2.findings = e.findings := by
  simp only [expire]
  split
  · exact findings_clearMessage _
  · rfl

/-- New data do not touch what was found wrong with the old. -/
theorem findings_withState (e : Engine) {s : FormState} (h : s.errors = e.state.errors) :
    ({ e with state := s }).findings = e.findings :=
  congrArg (Findings.mk e.validator) h

@[simp] theorem findings_reset (e : Engine) :
    e.reset.findings = { e.findings with errors := [] } := by
  rw [reset, findings_push, findings_rebuild, findings_refreshVisibility]
  rfl

@[simp] theorem findings_failLoad (e : Engine) (error : FormError) :
    (e.failLoad error).findings = e.findings := by
  simp [failLoad]

@[simp] theorem findings_reject (e : Engine) (reason : String) :
    (e.reject reason).findings = e.findings := by
  simp [reject]

@[simp] theorem findings_accept (e : Engine) (payload : Payload) (response : SubmitResponse) :
    (e.accept payload response).findings =
      if e.options.resetOnSubmit then { e.findings with errors := [] } else e.findings := by
  simp only [accept]
  generalize (if Text.isBlank response.message then submittedText else response.message) = text
  generalize htold : ((e.setStatus .submitted).push
    (.formSubmitted payload.data response.toJson)).showMessage text .success = told
  have hfindings : told.findings = e.findings := by rw [← htold]; simp
  have hoptions : told.options = e.options := by
    have hcontent : told.content = e.content := by rw [← htold]; simp
    exact congrArg Content.options hcontent
  rw [hoptions]
  split
  · rw [findings_reset, hfindings]
  · exact hfindings

@[simp] theorem findings_beginLoad (e : Engine) : e.beginLoad.2.2.findings = e.findings := by
  simp only [beginLoad, update, findings_drain]
  split
  · rw [findings_showMessage, findings_setStatus]
    rfl
  · rw [findings_setStatus]
    rfl

theorem findings_seedDefaults {fields : List FieldDefinition}
    (h : e.seedDefaults fields = some e') : e'.findings = e.findings := by
  refine seedDefaults_keeps (P := fun x => x.findings = e.findings) ?_ h rfl
  intro mid id name value put state hput hmid
  rcases FormState.seed_cases hput with ⟨-, -, rfl⟩ | ⟨-, -, data, -, rfl⟩ <;> exact hmid

@[simp] theorem findings_present (e : Engine) (d : FormDefinition) :
    (e.present d).findings = e.findings := by
  simp only [present, findings_push, findings_setStatus]
  split
  · rw [findings_clearMessage]
    rfl
  · rfl

/-- A form that is taken up leaves the errors that are stored. -/
theorem findings_install {d : FormDefinition} (h : e.install d = some e') :
    e'.findings = e.findings := by
  obtain ⟨sown, hsown, rfl⟩ := install_eq_some_iff.mp h
  have hkept : sown.findings = e.findings := (findings_seedDefaults hsown).trans rfl
  rw [findings_present, hkept]

/-! ### Full validations -/

theorem inScope_subset (e : Engine) (d : FormDefinition) : e.inScope d ⊆ d.fields := by
  unfold inScope
  split
  · exact List.Subset.refl _
  · exact List.filter_subset_self _

/-- The errors that are stored are those that were found. -/
theorem errors_storeErrors (e : Engine) {errors : Errors} (hordered : Keyed.Ordered errors)
    (h : ∀ entry ∈ errors, entry.2 ≠ "") : (e.storeErrors errors).state.errors = errors :=
  (FormState.errors_foldl_setError h _).trans (Keyed.ofPairs_of_ordered hordered)

/-- A full validation without a form finds nothing. -/
theorem findings_writeErrors_none (h : e.definition = none) :
    e.writeErrors.2.findings = { e.findings with errors := [] } := by
  simp only [writeErrors, h, findings_rebuild]
  rfl

/-- A full validation stores what the validator says of all fields that it covers. -/
theorem findings_writeErrors {d : FormDefinition} (h : e.definition = some d) :
    e.writeErrors.2.findings =
      ⟨(e.validator.validateAll (e.inScope d) e.state.data).2,
        (e.validator.validateAll (e.inScope d) e.state.data).1⟩ := by
  simp only [writeErrors, h, findings_rebuild]
  -- What was found is in order and without empty messages, so that storing it gives it back.
  refine congrArg (Findings.mk _) (errors_storeErrors _ ?_ ?_)
  · exact e.validator.ordered_validateAll _
  · exact fun entry hentry => (e.validator.mem_of_mem_validateAll _ hentry).2

/-! ### Validations of one field -/

/-- Where no field has the name, nothing is done. -/
theorem validateNamed_of_none {name : String}
    (h : (e.definition.bind fun d => d.fieldNamed? name) = none) : e.validateNamed name = e := by
  simp only [validateNamed, h]

/-- The validator is asked for the first field with the name. -/
theorem validator_validateNamed {name : String} {field : FieldDefinition}
    (h : (e.definition.bind fun d => d.fieldNamed? name) = some field) :
    (e.validateNamed name).validator =
      (e.validator.validateField field (e.state.value? name) e.state.data).2 := by
  simp only [validateNamed, h]
  split <;> rfl

/-- What the validator says is stored under the name. -/
theorem error?_validateNamed {name : String} {field : FieldDefinition}
    (h : (e.definition.bind fun d => d.fieldNamed? name) = some field) :
    (e.validateNamed name).state.error? name =
      (e.validator.validateField field (e.state.value? name) e.state.data).1 := by
  simp only [validateNamed, h]
  split
  · rename_i hsame
    exact hsame
  · exact (FormState.error?_setError_self _ _ _).trans (e.validator.filter_validateField _ _ _)

/-- Errors under other names stay. -/
theorem error?_validateNamed_of_ne (e : Engine) {name other : String} (h : other ≠ name) :
    (e.validateNamed name).state.error? other = e.state.error? other := by
  unfold validateNamed
  split
  · rfl
  · dsimp only
    split
    · rfl
    · exact FormState.error?_setError_of_ne _ h _

/-! ### What is kept -/

theorem grounded_of_findings (h : e.validator.Grounded)
    (hfindings : e'.findings.validator = e.findings.validator) : e'.validator.Grounded := by
  have heq : e'.validator = e.validator := hfindings
  rw [heq]
  exact h

theorem grounded_validateNamed (h : e.validator.Grounded) (name : String) :
    (e.validateNamed name).validator.Grounded := by
  cases hfield : e.definition.bind fun d => d.fieldNamed? name with
  | none =>
    rw [validateNamed_of_none hfield]
    exact h
  | some field =>
    rw [validator_validateNamed hfield]
    exact h.validateField _ _ _

theorem grounded_foldl_validateNamed (names : List String) (h : e.validator.Grounded) :
    (names.foldl validateNamed e).validator.Grounded := by
  induction names generalizing e with
  | nil => exact h
  | cons name rest ih => exact ih (grounded_validateNamed h name)

theorem grounded_writeErrors (h : e.validator.Grounded) : e.writeErrors.2.validator.Grounded := by
  cases hd : e.definition with
  | none =>
    have heq := congrArg Findings.validator (findings_writeErrors_none hd)
    exact grounded_of_findings h heq
  | some d =>
    have heq : e.writeErrors.2.validator = _ :=
      congrArg Findings.validator (findings_writeErrors hd)
    rw [heq]
    exact h.validateAll _ _

theorem grounded_follow (h : e.validator.Grounded) (names : List String) :
    (e.follow names).validator.Grounded := by
  have hrefreshed : e.refreshVisibility.validator.Grounded :=
    grounded_of_findings h (congrArg Findings.validator (findings_refreshVisibility e))
  simp only [follow]
  split
  · exact grounded_foldl_validateNamed names hrefreshed
  · exact hrefreshed

theorem grounded_blur (h : e.validator.Grounded) (name : String) :
    (e.blur name).validator.Grounded := by
  simp only [blur]
  split
  · exact grounded_validateNamed (e := { e with state := e.state.touch name }) h name
  · exact h

theorem grounded_reset (h : e.validator.Grounded) : e.reset.validator.Grounded := by
  have heq : e.reset.validator = e.validator := congrArg Findings.validator (findings_reset e)
  rw [heq]
  exact h

theorem grounded_render (h : e.validator.Grounded) : e.render.validator.Grounded := by
  simp only [render]
  split <;> exact h

/-- Every call that is done at once keeps what the validator keeps grounded. -/
theorem grounded_perform {call : EngineCall} {answer : Bool} (hgrounded : e.validator.Grounded)
    (h : e.perform call = some (answer, e')) : e'.validator.Grounded :=
  perform_cases (P := fun x => x.validator.Grounded) h
    (fun _ state _ => grounded_follow (e := { e with state := state }) hgrounded _)
    (grounded_blur hgrounded) (grounded_writeErrors hgrounded) (grounded_reset hgrounded)
    (grounded_render hgrounded)

theorem grounded_prepare (h : e.validator.Grounded) : e.prepare.2.validator.Grounded := by
  have hwritten := grounded_writeErrors h
  unfold prepare
  split
  · exact h
  · split
    · dsimp only
      split
      · exact grounded_of_findings hwritten (congrArg _ (findings_setStatus _ _))
      · exact grounded_of_findings hwritten (congrArg _ (findings_showMessage _ _ _))
    · exact h

theorem findings_conclude {number : Nat} {usable : Except FormError FormDefinition}
    {outcome : LoadOutcome} (h : conclude number usable e = some (outcome, e')) :
    e'.findings = e.findings := by
  unfold conclude at h
  split at h
  · cases h
    rfl
  · split at h
    · obtain ⟨done, hdone, heq⟩ := Option.map_eq_some_iff.mp h
      cases heq
      exact findings_install hdone
    · cases h
      exact findings_failLoad e _

/-- What a load leaves of the validator are the patterns that were compiled for the check. -/
theorem grounded_finishLoad {number : Nat} {arrived : Except FormError FormDefinition}
    {outcome : LoadOutcome} {events : List FormEvent} (hgrounded : e.validator.Grounded)
    (h : e.finishLoad number arrived = some (outcome, events, e')) : e'.validator.Grounded := by
  have hupdate (usable : Except FormError FormDefinition) {e : Engine}
      (hgrounded : e.validator.Grounded)
      (h : e.update? (conclude number usable) = some (outcome, events, e')) :
      e'.validator.Grounded := by
    obtain ⟨done, hdone, -, rfl⟩ := update?_eq_some_iff.mp h
    have hkept : done.drain.2.findings = e.findings :=
      (findings_drain done).trans (findings_conclude hdone)
    exact grounded_of_findings hgrounded (congrArg Findings.validator hkept)
  cases arrived with
  | error error => exact hupdate (.error error) hgrounded h
  | ok d =>
    rw [finishLoad_ok] at h
    refine hupdate _ ?_ h
    cases hcheck : d.check with
    | error error =>
      rw [check_of_error hcheck]
      exact hgrounded
    | ok =>
      rw [check_of_ok hcheck]
      exact hgrounded.checkPatterns d

end Engine

end LiveForm
