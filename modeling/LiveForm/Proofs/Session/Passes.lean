import LiveForm.Proofs.Engine.Passes
import LiveForm.Proofs.Session.Payload
import LiveForm.Proofs.Session.Validation

/-!
# What a full pass leaves

A form is validated as a whole where that is asked, and before it is sent. What the pass finds
decides on the answer; what it stores is what is seen of the errors from then on. The two are the
same (`Engine.Passed`): an error stands under a name exactly if one of the fields in scope with the
name has something wrong, and it is that of the last of them. A validation of one field alone would
say the same before and after the pass.

`Run.full_pass` says this of the two moves of a session that validate as a whole.
-/

namespace LiveForm

/-- In a form whose fields have identifiers of their own all fields are in scope, or those that are
shown. -/
theorem FormDefinition.mem_inScope_iff {d : FormDefinition}
    (hids : (d.fields.map FieldDefinition.id).Nodup) {scope : ValidationScope} {data : Json}
    {field : FieldDefinition} :
    field ∈ d.inScope scope data ↔
      field ∈ d.fields ∧ (scope = .visibleOnly → field.isVisible data = true) := by
  unfold FormDefinition.inScope
  cases scope with
  | allFields => exact (and_iff_left nofun).symm
  | visibleOnly =>
    rw [List.mem_filter, beq_iff_eq]
    apply and_congr_right
    intro hfield
    rw [find?_visibilityMap_eq_some_iff hids]
    constructor
    · rintro ⟨other, hother, hid, hvisible⟩ -
      have hsame : other = field := List.inj_on_of_nodup_map hids hother hfield hid
      rwa [hsame] at hvisible
    · intro hvisible
      exact ⟨field, hfield, rfl, hvisible rfl⟩

namespace Engine

variable {e mid e' : Engine} {errors : Errors} {events : List FormEvent}

/-- The fields of the form that a full pass covers, in the order in which they are declared. -/
def covered (e : Engine) : List FieldDefinition :=
  match e.definition with
  | some d => d.inScope e.options.validationScope e.state.data
  | none => []

/-- A full pass took one engine to another: it found errors, put them in place of those that were
stored, and told so. -/
structure Passed (e : Engine) (errors : Errors) (events : List FormEvent) (e' : Engine) : Prop where
  /-- What was found is stored. -/
  stored : e'.state.errors = errors
  validated : errors = (e.validator.validateAll e.covered e.state.data).1
  ordered : Keyed.Ordered errors
  /-- What is hidden is covered only if all fields are in scope. -/
  covers : ∀ field, field ∈ e.covered ↔ field ∈ e.fields ∧
    (e.options.validationScope = .visibleOnly → field.isVisible e.state.data = true)
  /-- A name has an error exactly if something is wrong with a field in scope. -/
  named : ∀ name, (Keyed.find? errors name).isSome = true ↔
    ∃ field ∈ e.covered, field.name = name ∧ (e.complaint field).isSome = true
  /-- The error is that of the last of them. -/
  found : ∀ name message, Keyed.find? errors name = some message ↔
    ∃ before field after, e.covered = before ++ field :: after ∧ field.name = name ∧
      e.complaint field = some message ∧
      ∀ later ∈ after, later.name = name → e.complaint later = none
  /-- A validation of one field says after the pass what it said before. -/
  complaint : ∀ field ∈ e.fields, e'.complaint field = e.complaint field
  told : events = FormEvent.ofErrors errors
  /-- Whoever reads the last event alone knows all errors. -/
  last : ∀ entry, errors.getLast? = some entry →
    events.getLast? = some (.errorChange entry.1 (some entry.2) errors)
  data : e'.state.data = e.state.data
  touched : e'.state.touched = e.state.touched
  visibility : e'.visibility = e.visibility
  definition : e'.definition = e.definition
  status : e'.status = e.status

/-- What comes after a pass and touches neither errors nor content, status and marks leaves it a
pass. -/
theorem Passed.of_eq (h : e.Passed errors events mid) (hfindings : e'.findings = mid.findings)
    (hcontent : e'.content = mid.content) (hstatus : e'.status = mid.status)
    (htouched : e'.state.touched = mid.state.touched) : e.Passed errors events e' := by
  have hdata : e'.state.data = mid.state.data := congrArg Content.data hcontent
  have hvalidator : e'.validator = mid.validator := congrArg Findings.validator hfindings
  exact {
    h with
    stored := (congrArg Findings.errors hfindings).trans h.stored
    complaint := by
      intro field hfield
      rw [Engine.complaint, hvalidator, hdata]
      exact h.complaint field hfield
    data := hdata.trans h.data
    touched := htouched.trans h.touched
    visibility := (congrArg Content.visibility hcontent).trans h.visibility
    definition := (congrArg Content.definition hcontent).trans h.definition
    status := hstatus.trans h.status }

theorem Passed.push (h : e.Passed errors events mid) (event : FormEvent) :
    e.Passed errors events (mid.push event) :=
  h.of_eq rfl rfl rfl rfl

theorem Passed.showMessage (h : e.Passed errors events mid) (text : String) (kind : MessageKind) :
    e.Passed errors events (mid.showMessage text kind) :=
  h.of_eq (findings_showMessage mid text kind) (content_showMessage mid text kind)
    (congrArg Progress.status (progress_showMessage mid text kind))
    (touched_showMessage mid text kind)

/-! ### A full validation -/

theorem covered_eq (h : e.content.Coherent) {d : FormDefinition} (hd : e.definition = some d) :
    e.covered = e.inScope d := by
  simp only [covered, hd, inScope_eq h hd]

theorem covered_sublist (e : Engine) : e.covered.Sublist e.fields := by
  cases hd : e.definition with
  | none =>
    simp only [covered, fields, hd]
    exact List.Sublist.refl _
  | some d =>
    simp only [covered, fields, hd, FormDefinition.inScope]
    split
    · exact List.Sublist.refl _
    · exact List.filter_sublist

theorem mem_covered_iff (h : e.content.Coherent) {field : FieldDefinition} :
    field ∈ e.covered ↔ field ∈ e.fields ∧
      (e.options.validationScope = .visibleOnly → field.isVisible e.state.data = true) := by
  cases hd : e.definition with
  | none => simp [covered, fields, hd]
  | some d =>
    simp only [covered, fields, hd]
    exact FormDefinition.mem_inScope_iff (FormDefinition.nodup_of_check (h.accepted d hd))

/-- A full validation is what the validator says of the fields that it covers. -/
theorem fst_writeErrors_eq (h : e.content.Coherent) :
    e.writeErrors.1 = (e.validator.validateAll e.covered e.state.data).1 := by
  cases hd : e.definition with
  | none =>
    rw [fst_writeErrors_none hd]
    simp only [covered, hd]
    rfl
  | some d => rw [fst_writeErrors hd, covered_eq h hd]

/-- It changes nothing of what a validation of one field says. -/
theorem complaint_writeErrors (h : e.content.Coherent) (hgrounded : e.validator.Grounded)
    {field : FieldDefinition} (hfield : field ∈ e.fields) :
    e.writeErrors.2.complaint field = e.complaint field := by
  obtain ⟨done, hdone⟩ := hgrounded
  have hdata : e.writeErrors.2.state.data = e.state.data :=
    congrArg Content.data (content_writeErrors e)
  cases hd : e.definition with
  | none =>
    simp only [fields, hd] at hfield
    cases hfield
  | some d =>
    rw [Engine.complaint, validator_writeErrors hd, hdata, ← covered_eq h hd]
    exact hdone.complaint_gather [] (nodup_fields h) e.covered_sublist.subset hfield _

/-- A full validation of a coherent engine is a pass. -/
theorem passed_writeErrors (hcoherent : e.content.Coherent) (hgrounded : e.validator.Grounded)
    (hsettled : e.Settled) :
    e.Passed e.writeErrors.1 e.writeErrors.2.drain.1 e.writeErrors.2 := by
  have hcontent := content_writeErrors e
  have hvalidated := fst_writeErrors_eq hcoherent
  have hids : (e.covered.map FieldDefinition.id).Nodup :=
    (nodup_fields hcoherent).sublist (e.covered_sublist.map _)
  have htold : e.writeErrors.2.drain.1 = FormEvent.ofErrors e.writeErrors.1 := by
    rw [drain_writeErrors, show e.drain.1 = [] from hsettled, List.nil_append]
  obtain ⟨done, hdone⟩ := hgrounded
  exact {
    stored := errors_writeErrors e
    validated := hvalidated
    ordered := ordered_writeErrors e
    covers := by
      intro field
      exact mem_covered_iff hcoherent
    named := by
      intro name
      rw [hvalidated]
      exact hdone.isSome_find?_validateAll hids name
    found := by
      intro name message
      rw [hvalidated]
      exact hdone.find?_validateAll_eq_some_iff hids
    complaint := by
      intro field hfield
      exact complaint_writeErrors hcoherent ⟨done, hdone⟩ hfield
    told := htold
    last := by
      intro entry hentry
      rw [htold]
      exact FormEvent.getLast?_ofErrors hentry
    data := congrArg Content.data hcontent
    touched := touched_writeErrors e
    visibility := congrArg Content.visibility hcontent
    definition := congrArg Content.definition hcontent
    status := congrArg Progress.status (progress_writeErrors e) }

end Engine

namespace Session

variable {options : EngineOptions} {timed : Bool} {s : Session} {trace : List Turn}

/-- Validating a form, and trying to send one in which something is wrong, are full passes. The
answer of a validation is that nothing is stored afterwards; a submission that is refused carries
what is stored, and tells of it and of a message after the pass. -/
theorem Run.full_pass (hrun : Run (.fresh options timed) trace s) :
    (∀ events next, Step s (.call .validate) events next →
      s.engine.Passed s.engine.writeErrors.1 events next.engine ∧
      ∃ answer, s.engine.obey .validate = some (answer, events, next.engine) ∧
        (answer = true ↔ next.engine.state.errors = [])) ∧
    ∀ i errors events next, Step s (.prepare i) events next →
      next.submits[i]? = some (.finished (.invalid errors)) →
      errors = s.engine.writeErrors.1 ∧ errors ≠ [] ∧
      ∃ told, events = told ++ [.validationFailed errors,
          .message ⟨s.engine.messages + 1, Engine.fixErrorsText, .error⟩] ∧
        s.engine.Passed errors told next.engine := by
  have hpassed := Engine.passed_writeErrors hrun.coherent hrun.grounded hrun.settled
  constructor
  · intro events next hstep
    cases hstep with
    | call hobey =>
      cases hobey
      refine ⟨hpassed.of_eq rfl rfl rfl rfl, _, rfl, ?_⟩
      show s.engine.writeErrors.1.isEmpty = true ↔ s.engine.writeErrors.2.state.errors = []
      rw [s.engine.errors_writeErrors, List.isEmpty_iff]
  · intro i errors events next hstep hrefused
    cases hstep with
    | prepare i hstage hbegin =>
      rw [List.getElem?_set_self (List.getElem?_eq_some_iff.mp hstage).1] at hrefused
      cases hrefused
    | refuse i hstage hbegin =>
      rw [List.getElem?_set_self (List.getElem?_eq_some_iff.mp hstage).1] at hrefused
      cases hrefused
      obtain ⟨herrors, hne, hchanged⟩ := Engine.prepare_refused hbegin
      refine ⟨herrors, hne, _, Engine.drain_prepare_refused hbegin, ?_⟩
      have hrefusal := (hpassed.push (.validationFailed s.engine.writeErrors.1)).showMessage
        Engine.fixErrorsText .error
      rw [← herrors, ← hchanged] at hrefusal
      exact hrefusal.of_eq rfl rfl rfl rfl

/-- Two fields with one name, each with a length of its own, and a field that is shown as long as
the text under this name is empty. -/
def pickyForm : FormDefinition :=
  { noteForm with
    fields := [
      { FieldDefinition.ofKind "a" .text with
        name := "x", constraints := some { minLength := some 3 } },
      { FieldDefinition.ofKind "b" .text with
        name := "x", constraints := some { minLength := some 2 } },
      (requiredField "c" "y").withCondition ⟨"x", .isEmpty, .null⟩] }

/-- The picky form, with only the fields in scope that are shown, after a short text was filled in
and a submission was begun. -/
def pickyEntered : Session :=
  let filled := ((loadedWith { validationScope := .visibleOnly } pickyForm).calling
    (.setValue "x" (.str "q"))).2
  { filled with engine := { filled.engine with submitting := true }, submits := [.entered] }

/-- What is wrong with the picky form in the end. -/
def pickyErrors : Errors := [("x", "Must be at least 2 characters")]

/-- The picky form is not valid, and to send it is refused. Both moves store the complaint of the
second field in place of that of the first, which was stored before. The field that is hidden has
to be given, but not now. -/
theorem full_pass_pickyForm :
    ∃ trace s, Run (.fresh { validationScope := .visibleOnly } true) trace s ∧
      s.engine.state.errors = [("x", "Must be at least 3 characters")] ∧
      (∃ events next, Step s (.call .validate) events next ∧
        s.engine.obey .validate = some (false, events, next.engine) ∧
        s.engine.Passed pickyErrors events next.engine) ∧
      ∃ events next told, Step s (.prepare 0) events next ∧
        next.submits[0]? = some (.finished (.invalid pickyErrors)) ∧
        events = told ++ [.validationFailed pickyErrors,
          .message ⟨s.engine.messages + 1, Engine.fixErrorsText, .error⟩] ∧
        s.engine.Passed pickyErrors told next.engine := by
  obtain ⟨origin, hrun⟩ := run_loadedWith { validationScope := .visibleOnly } pickyForm
  have hfilled := hrun.turn (step_calling (.setValue "x" (.str "q")) (by decide))
  have hentered : Run (.fresh { validationScope := .visibleOnly } true) _ pickyEntered :=
    hfilled.turn (.enter rfl rfl)
  have hfound : pickyEntered.engine.writeErrors.1 = pickyErrors := by decide
  have hbegin : pickyEntered.engine.beginSubmit.1 = .error (.invalid pickyErrors) := by decide
  obtain ⟨hvalidate, hsubmit⟩ := hentered.full_pass
  have hvalidated : Step pickyEntered (.call .validate) _ _ := .call rfl
  obtain ⟨hpassed, answer, hobey, hanswer⟩ := hvalidate _ _ hvalidated
  have hno : answer = false := by
    rw [Bool.eq_false_iff, ne_eq, hanswer, hpassed.stored, hfound]
    nofun
  have hrefused := Step.refuse (s := pickyEntered) 0 rfl hbegin
  obtain ⟨-, -, told, htold, hrefusal⟩ := hsubmit 0 pickyErrors _ _ hrefused rfl
  exact ⟨_, _, hentered, by decide, ⟨_, _, hvalidated, hno ▸ hobey, hfound ▸ hpassed⟩,
    _, _, told, hrefused, rfl, htold, hfound ▸ hrefusal⟩

end Session

end LiveForm
