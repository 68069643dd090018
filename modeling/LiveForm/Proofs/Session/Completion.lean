import LiveForm.Proofs.Session.Stages

/-!
# What an answer leaves

Between the moment when a payload is taken and the answer to it, a form can be edited and other
forms can be loaded. The answer itself takes nothing away: whatever reads as a value before it reads
as the same value after it, with one exception. Where the options ask for a reset, an accepted
submission takes all values away, also those that are younger than its payload.
-/

namespace LiveForm.Session

variable {options : EngineOptions} {timed : Bool} {s next : Session} {events : List FormEvent}
  {trace : List Turn} {i : Nat}

/-- An answer that resets the form leaves no value at any name. -/
theorem Step.value?_reset {response : SubmitResponse}
    (h : Step s (.answer i (.ok response)) events next)
    (hreset : s.engine.options.resetOnSubmit = true) (name : String) :
    next.engine.state.value? name = none := by
  have hcontent := h.content_answer
  simp only [if_pos hreset] at hcontent
  have hdata : next.engine.state.data = .obj [] := congrArg Content.data hcontent
  rw [FormState.value?, hdata, Json.get?_empty]

/-- An answer that does not reset the form leaves the values as they are. -/
theorem Step.value?_keep {answer : Except TransportError SubmitResponse}
    (h : Step s (.answer i answer) events next)
    (hkeep : ¬ ((∃ response, answer = .ok response) ∧ s.engine.options.resetOnSubmit = true))
    (name : String) : next.engine.state.value? name = s.engine.state.value? name := by
  have hcontent : next.engine.content = s.engine.content := by
    have hcontent := h.content_answer
    cases answer with
    | ok response =>
      have hreset : ¬ s.engine.options.resetOnSubmit = true := fun hreset =>
        hkeep ⟨⟨response, rfl⟩, hreset⟩
      simpa only [if_neg hreset] using hcontent
    | error error => exact hcontent
  have hdata : next.engine.state.data = s.engine.state.data := congrArg Content.data hcontent
  rw [FormState.value?, hdata, FormState.value?]

/-- Every name reads after an answer what it read before, unless the answer accepts the submission
and the options ask for a reset. Then no name reads anything. -/
theorem Run.value_answer (hrun : Run (.fresh options timed) trace s)
    {answer : Except TransportError SubmitResponse} (h : Step s (.answer i answer) events next)
    (name : String) :
    next.engine.state.value? name =
      match answer with
      | .ok _ => if options.resetOnSubmit then none else s.engine.state.value? name
      | .error _ => s.engine.state.value? name := by
  have hoptions : s.engine.options = options := hrun.options_eq
  cases answer with
  | ok response =>
    by_cases hreset : options.resetOnSubmit = true
    · rw [h.value?_reset (hoptions ▸ hreset) name]
      exact (if_pos hreset).symm
    · have hkeep := h.value?_keep (fun ⟨_, hs⟩ => hreset (hoptions ▸ hs)) name
      exact hkeep.trans (if_neg hreset).symm
  | error error => exact h.value?_keep (fun ⟨⟨_, hok⟩, _⟩ => nomatch hok) name

/-- The note form can be edited while the answer to its submission is waited for. -/
theorem exists_edited (reset : Bool) :
    ∃ before told after told' s, Run (.fresh { resetOnSubmit := reset } true)
        (before ++ ⟨.prepare 0, told⟩ ::
          (after ++ [⟨.call (.setValue "text" (.str "x")), told'⟩])) s ∧
      s.submits[0]? = some (.sent "note" ⟨.obj []⟩) ∧
      s.engine.state.value? "text" = some (.str "x") := by
  obtain ⟨before, told, after, s, hrun, hstage, -, hdata⟩ := exists_sent reset
  have hroom : (s.engine.obey (.setValue "text" (.str "x"))).isSome = true := by
    rw [Engine.isSome_obey_setValue_iff, hdata]
    exact (Json.isSome_write?_iff .null).mp rfl
  have hedit := step_calling (.setValue "text" (.str "x")) hroom
  obtain ⟨done, hdone, -, hnext⟩ := hedit.setValue_eq
  have hwritten : done.state.data = s.engine.state.data.set "text" (.str "x") :=
    congrArg Content.data (Engine.content_setValue hdone)
  have hvalue : (s.calling (.setValue "text" (.str "x"))).2.engine.state.value? "text" =
      some (.str "x") := by
    rw [← hnext]
    show done.state.value? "text" = _
    rw [FormState.value?, hwritten, hdata]
    rfl
  have hother : (Move.call (.setValue "text" (.str "x"))).submit? ≠ some 0 :=
    (Option.some_ne_none 0).symm
  have hstill : (s.calling (.setValue "text" (.str "x"))).2.submits[0]? =
      some (.sent "note" ⟨.obj []⟩) := (hedit.submits_eq hother).trans hstage
  have hedited := hrun.turn hedit
  rw [List.append_assoc, List.cons_append] at hedited
  exact ⟨before, told, after, _, _, hedited, hstill, hvalue⟩

/-- A value that no reset takes away stays. -/
theorem value_answer_noteForm :
    ∃ trace s events next, Run (.fresh {} true) trace s ∧
      Step s (.answer 0 (.ok {})) events next ∧
      s.engine.state.value? "text" = some (.str "x") ∧
      next.engine.state.value? "text" = some (.str "x") := by
  obtain ⟨before, told, after, told', s, hrun, hstage, hvalue⟩ := exists_edited false
  have hstep := Step.answer 0 (.ok {}) hstage
  have hkept := hrun.value_answer hstep "text"
  exact ⟨_, s, _, _, hrun, hstep, hvalue, hkept.trans hvalue⟩

/-- With a reset on submission an answer takes away what was written after the payload was taken. -/
theorem reset_discards_later_edit :
    ¬ ∀ (options : EngineOptions) (timed : Bool) (before : List Turn) (i : Nat)
        (told : List FormEvent) (after : List Turn) (s : Session)
        (answer : Except TransportError SubmitResponse) (events : List FormEvent) (next : Session)
        (name : String) (v : Json),
      Run (.fresh options timed) (before ++ ⟨.prepare i, told⟩ :: after) s →
      (∃ told', ⟨.call (.setValue name v), told'⟩ ∈ after) →
      Step s (.answer i answer) events next →
      s.engine.state.value? name = some v → next.engine.state.value? name = some v := by
  intro h
  obtain ⟨before, told, after, told', s, hrun, hstage, hvalue⟩ := exists_edited true
  have hstep := Step.answer 0 (.ok {}) hstage
  have hkept := h _ _ _ _ _ _ _ _ _ _ _ _ hrun
    ⟨told', List.mem_append_right _ (List.mem_singleton.mpr rfl)⟩ hstep hvalue
  rw [hstep.value?_reset (congrArg EngineOptions.resetOnSubmit hrun.options_eq) "text"] at hkept
  cases hkept

end LiveForm.Session
