import LiveForm.Proofs.Rules.Visibility
import LiveForm.Proofs.Session.Stages
import LiveForm.Proofs.Session.View

/-!
# What is sent

A payload is given to the transport only by a submission that was prepared, and the preparation is
one step: it finds the form ready, validates the data, and takes them as the payload. Whatever
happens until the payload is sent, and from then on until the answer comes, the submission keeps it.
-/

namespace LiveForm

/-- The fields that a full validation of the data covers: all, or those that the data show. -/
def FormDefinition.inScope (d : FormDefinition) (scope : ValidationScope) (data : Json) :
    List FieldDefinition :=
  match scope with
  | .allFields => d.fields
  | .visibleOnly =>
    d.fields.filter fun f => Keyed.find? (visibilityMap d.fields data) f.id == some true

/-- In a coherent engine the fields in scope are those that its data show. -/
theorem Engine.inScope_eq {e : Engine} (h : e.content.Coherent) {d : FormDefinition}
    (hd : e.definition = some d) : e.inScope d = d.inScope e.options.validationScope e.state.data := by
  have hcontent : e.content.definition = some d := hd
  have hshown : e.visibility = visibilityMap d.fields e.state.data := by
    show e.content.visibility = _
    rw [h.shown, Content.shown, hcontent]
    rfl
  unfold Engine.inScope FormDefinition.inScope
  cases e.options.validationScope with
  | allFields => rfl
  | visibleOnly =>
    refine List.filter_congr fun f hf => ?_
    obtain ⟨visible, hvisible⟩ := exists_find?_visibilityMap hf e.state.data
    rw [Engine.isVisible, hshown, hvisible]
    cases visible <;> rfl

namespace Session

variable {options : EngineOptions} {timed : Bool} {start s next : Session} {move : Move}
  {events : List FormEvent} {trace : List Turn} {i : Nat} {formId : String} {payload : Payload}

/-- The statuses in which a form accepts submissions. -/
theorem isReady_cases {status : FormStatus} (h : status.isReady = true) :
    status = .ready ∨ status = .submitted ∨ status = .submitError := by
  cases status <;> simp_all [FormStatus.isReady]

/-- A submission that is under way was prepared before, in one step of the run. -/
theorem Run.exists_prepare (hrun : Run start trace s) (hstart : start.submits = [])
    (hs : s.Underway i formId payload) :
    ∃ before told after p q, trace = before ++ ⟨.prepare i, told⟩ :: after ∧
      Run start before p ∧ Step p (.prepare i) told q ∧ Run q after s ∧
      p.engine.beginSubmit.1 = .ok (formId, payload) ∧ q.Underway i formId payload := by
  have hnone : ¬ start.Underway i formId payload := by
    rintro (h | h) <;> rw [hstart] at h <;> cases h
  obtain ⟨before, move, told, after, p, q, rfl, hp, hpq, hq, hnot, hyes⟩ :=
    hrun.crossing (P := fun s => s.Underway i formId payload) hnone hs
  rcases hpq.underway_before hyes with h | ⟨rfl, hbegin⟩
  · exact absurd h hnot
  · exact ⟨before, told, after, p, q, rfl, hp, hpq, hq, hbegin, hyes⟩

/-- The completion of an accepted submission tells of it once, with the payload that was sent. -/
theorem Step.submitted_answer {response : SubmitResponse}
    (h : Step s (.answer i (.ok response)) events next) (hsettled : s.engine.Settled)
    (hs : s.Underway i formId payload) :
    events.filter Engine.isSubmitted = [.formSubmitted payload.data response.toJson] := by
  cases h with
  | @answer _ formId' payload' _ hstage =>
    have hsame : payload' = payload := by
      rcases hs with hs | hs <;> rw [hs] at hstage <;> cases hstage
      rfl
    rw [hsame]
    show ((s.engine.accept payload response).drain.1).filter Engine.isSubmitted = _
    rw [Engine.submitted_accept, show s.engine.drain.1 = [] from hsettled]
    rfl

/-- What is answered is not closed. -/
theorem Step.not_closed {answer : Except TransportError SubmitResponse}
    (h : Step s (.answer i answer) events next) : ¬ s.Closed i := by
  cases h with
  | answer _ answer hstage => exact Underway.not_closed (.inr hstage)

/-- What is sent was prepared by the same submission in a step that found the form ready, its data
without errors, and took exactly them. If the submission is accepted it is told with them. -/
theorem Run.send_prepared (hrun : Run (.fresh options timed) trace s)
    (hsend : Step s (.send i formId payload) events next) :
    ∃ before told after p q d, trace = before ++ ⟨.prepare i, told⟩ :: after ∧
      Run (.fresh options timed) before p ∧ Step p (.prepare i) told q ∧ Run q after s ∧
      (p.engine.status = .ready ∨ p.engine.status = .submitted ∨
        p.engine.status = .submitError) ∧
      p.engine.definition = some d ∧ d.formId = formId ∧
      payload.data = p.engine.state.data ∧
      (p.engine.validator.validateAll (d.inScope options.validationScope payload.data)
        payload.data).1 = [] ∧
      payload.data.IsObject ∧
      ∀ later t response told' t', Run next later t →
        Step t (.answer i (.ok response)) told' t' →
        told'.filter Engine.isSubmitted = [.formSubmitted payload.data response.toJson] := by
  cases hsend with
  | send _ hstage =>
    obtain ⟨before, told, after, p, q, htrace, hp, hpq, hq, hbegin, -⟩ :=
      hrun.exists_prepare rfl (.inl hstage)
    obtain ⟨⟨d, hform, hprepared⟩, -⟩ := Engine.prepare_ok hbegin
    have hcoherent := hp.coherent
    refine ⟨before, told, after, p, q, d, htrace, hp, hpq, hq, isReady_cases hprepared.ready,
      hprepared.definition, hform, hprepared.payload, ?_, ?_, ?_⟩
    · rw [hprepared.payload, ← hp.options_eq, ← Engine.inScope_eq hcoherent hprepared.definition]
      exact hprepared.valid
    · rw [hprepared.payload]
      exact hcoherent.object
    · -- Up to the answer the submission is under way with this payload.
      intro later t response told' t' hlater hanswer
      have hsent : Step s (.send i formId payload) [] _ := .send i hstage
      have hsettled := ((hrun.turn hsent).append hlater).settled
      have hnow : (Session.mk s.engine s.loads (s.submits.set i (.sent formId payload))).Underway i
          formId payload :=
        .inr (List.getElem?_set_self (List.getElem?_eq_some_iff.mp hstage).1)
      rcases hlater.underway hnow with hunder | hclosed
      · exact hanswer.submitted_answer hsettled hunder
      · exact absurd hclosed hanswer.not_closed

/-- An edit between the preparation and the sending is not sent. -/
theorem send_prepared_noteForm :
    ∃ trace s events next, Run (.fresh {} true) trace s ∧
      Step s (.send 0 "note" ⟨.obj []⟩) events next ∧
      s.engine.state.value? "text" = some (.str "x") ∧
      ∃ before told after p, trace = before ++ ⟨.prepare 0, told⟩ :: after ∧
        Run (.fresh {} true) before p ∧ p.engine.state.data = .obj [] := by
  obtain ⟨trace, s, hrun, hstage, hvalue⟩ : ∃ trace s, Run (.fresh {} true) trace s ∧
      s.submits[0]? = some (.prepared "note" ⟨.obj []⟩) ∧
      s.engine.state.value? "text" = some (.str "x") := by
    have hloaded := (Run.rest : Run (.fresh {} true) [] _).turn (.startLoad (.definition noteForm) rfl)
      |>.turn (step_arriving 0 (.error (.unavailable "")) rfl rfl)
    have hprepared := (hloaded.turn (.enter rfl rfl)).turn (.prepare 0 rfl rfl)
    exact ⟨_, _, hprepared.turn (step_calling (.setValue "text" (.str "x")) rfl), rfl, rfl⟩
  refine ⟨trace, s, _, _, hrun, .send 0 hstage, hvalue, ?_⟩
  obtain ⟨before, told, after, p, -, -, htrace, hp, -, -, -, -, -, hdata, -⟩ :=
    hrun.send_prepared (.send 0 hstage)
  exact ⟨before, told, after, p, htrace, hp, hdata.symm⟩

end Session

end LiveForm
