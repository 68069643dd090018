import LiveForm.Proofs.Session.Basic

/-!
# The stages of loads and submissions

Loads and submissions are told apart by their place in the session. A step is about at most one of
them, and `Step.becomes` says how it changes the stage of the submission that it is about. From it
follows what a submission goes through: it gets under way by a preparation, keeps its payload for as
long as it is under way, and once it is closed it stays closed.
-/

namespace LiveForm.Session

variable {options : EngineOptions} {timed : Bool} {start s next : Session} {move : Move}
  {events : List FormEvent} {trace : List Turn} {i j n : Nat} {formId : String} {payload : Payload}

/-- What first holds at some point of a run came about by one of its steps. -/
theorem Run.crossing {P : Session → Prop} (hrun : Run start trace s) (hstart : ¬ P start)
    (hs : P s) :
    ∃ before move events after p q, trace = before ++ ⟨move, events⟩ :: after ∧
      Run start before p ∧ Step p move events q ∧ Run q after s ∧ ¬ P p ∧ P q := by
  induction hrun with
  | rest => exact absurd hs hstart
  | @turn trace s next move events hrun hstep ih =>
    by_cases hbefore : P s
    · obtain ⟨before, move', events', after, p, q, rfl, hp, hpq, hq, hnot, hyes⟩ := ih hbefore
      exact ⟨before, move', events', after ++ [⟨move, events⟩], p, q, by simp, hp, hpq,
        hq.turn hstep, hnot, hyes⟩
    · exact ⟨trace, move, events, [], s, next, rfl, hrun, hstep, .rest, hbefore, hs⟩

/-! ## One submission -/

/-- How a move changes the stage of the submission that it is about. -/
inductive Becomes (e : Engine) (i : Nat) : Move → Option SubmitStage → SubmitStage → Prop
  | enter (hflag : e.submitting = false) : Becomes e i (.enter i) none .entered
  | skip (hflag : e.submitting = true) :
      Becomes e i (.enter i) none (.ended (.skipped .inFlight))
  | prepare {formId : String} {payload : Payload}
      (hbegin : e.beginSubmit.1 = .ok (formId, payload)) :
      Becomes e i (.prepare i) (some .entered) (.prepared formId payload)
  | refuse {outcome : SubmitOutcome} (hbegin : e.beginSubmit.1 = .error outcome) :
      Becomes e i (.prepare i) (some .entered) (.finished outcome)
  | send {formId : String} {payload : Payload} :
      Becomes e i (.send i formId payload) (some (.prepared formId payload)) (.sent formId payload)
  | answer {formId : String} {payload : Payload} (answer : Except TransportError SubmitResponse) :
      Becomes e i (.answer i answer) (some (.sent formId payload))
        (.finished (e.finishSubmit payload answer).1)
  | leave {outcome : SubmitOutcome} : Becomes e i (.leave i) (some (.finished outcome))
      (.ended outcome)
  | drop {stage : SubmitStage} (hholds : stage.holds = true) :
      Becomes e i (.drop i) (some stage) .dropped

/-- A step about a submission changes its stage. -/
theorem Step.becomes (h : Step s move events next) (hi : move.submit? = some i) :
    ∃ stage, next.submits[i]? = some stage ∧ Becomes s.engine i move s.submits[i]? stage := by
  have hset {stage : SubmitStage} (hstage : s.submits[i]? = some stage) (new : SubmitStage) :
      (s.submits.set i new)[i]? = some new :=
    List.getElem?_set_self (List.getElem?_eq_some_iff.mp hstage).1
  cases h with
  | @enter _ e hlength hflag =>
    cases hi
    rw [hlength, List.getElem?_eq_none (Nat.le_refl _)]
    exact ⟨.entered, List.getElem?_concat_length, .enter (Engine.acquire_eq_some.mp hflag).1⟩
  | skip hlength hflag =>
    cases hi
    rw [hlength, List.getElem?_eq_none (Nat.le_refl _)]
    exact ⟨_, List.getElem?_concat_length, .skip (Engine.acquire_eq_none.mp hflag)⟩
  | prepare i hstage hbegin => cases hi; exact ⟨_, hset hstage _, hstage ▸ .prepare hbegin⟩
  | refuse i hstage hbegin => cases hi; exact ⟨_, hset hstage _, hstage ▸ .refuse hbegin⟩
  | send i hstage => cases hi; exact ⟨_, hset hstage _, hstage ▸ .send⟩
  | answer i answer hstage => cases hi; exact ⟨_, hset hstage _, hstage ▸ .answer answer⟩
  | leave i hstage => cases hi; exact ⟨_, hset hstage _, hstage ▸ .leave⟩
  | drop i hstage hholds => cases hi; exact ⟨_, hset hstage _, hstage ▸ .drop hholds⟩
  | _ => cases hi

/-- The submission was prepared with a payload and has no answer yet. -/
def Underway (s : Session) (i : Nat) (formId : String) (payload : Payload) : Prop :=
  s.submits[i]? = some (.prepared formId payload) ∨ s.submits[i]? = some (.sent formId payload)

/-- The submission has its outcome, or will never have one. -/
def Closed (s : Session) (i : Nat) : Prop :=
  ∃ stage, s.submits[i]? = some stage ∧ stage.closed = true

/-- A submission gets under way by a preparation. -/
theorem Step.underway_before (h : Step s move events next) (hnext : next.Underway i formId payload) :
    s.Underway i formId payload ∨
      move = .prepare i ∧ s.engine.beginSubmit.1 = .ok (formId, payload) := by
  by_cases hi : move.submit? = some i
  · obtain ⟨stage, hstage, hbecomes⟩ := h.becomes hi
    generalize hbefore : s.submits[i]? = before at hbecomes
    unfold Underway at hnext
    rw [hstage] at hnext
    rcases hnext with hnext | hnext
    · cases hnext
      cases hbecomes with
      | prepare hbegin => exact .inr ⟨rfl, hbegin⟩
    · cases hnext
      cases hbecomes with
      | send => exact .inl (.inl hbefore)
  · unfold Underway at hnext ⊢
    rw [h.submits_eq hi] at hnext
    exact .inl hnext

/-- What is closed stays closed. -/
theorem Step.closed (h : Step s move events next) (hs : s.Closed i) : next.Closed i := by
  by_cases hi : move.submit? = some i
  · obtain ⟨stage, hstage, hbecomes⟩ := h.becomes hi
    obtain ⟨before, hbefore, hclosed⟩ := hs
    rw [hbefore] at hbecomes
    cases hbecomes with
    | leave => exact ⟨_, hstage, rfl⟩
    | drop hholds => exact ⟨_, hstage, rfl⟩
    | _ => cases hclosed
  · obtain ⟨before, hbefore, hclosed⟩ := hs
    exact ⟨before, (h.submits_eq hi).trans hbefore, hclosed⟩

/-- What is under way stays so with the same payload until it is closed. -/
theorem Step.underway (h : Step s move events next) (hs : s.Underway i formId payload) :
    next.Underway i formId payload ∨ next.Closed i := by
  by_cases hi : move.submit? = some i
  · obtain ⟨stage, hstage, hbecomes⟩ := h.becomes hi
    rcases hs with hs | hs
    · rw [hs] at hbecomes
      cases hbecomes with
      | send => exact .inl (.inr hstage)
      | drop hholds => exact .inr ⟨_, hstage, rfl⟩
    · rw [hs] at hbecomes
      cases hbecomes with
      | answer answer => exact .inr ⟨_, hstage, rfl⟩
      | drop hholds => exact .inr ⟨_, hstage, rfl⟩
  · unfold Underway
    rw [h.submits_eq hi]
    exact .inl hs

theorem Run.underway (hrun : Run start trace s) (hstart : start.Underway i formId payload) :
    s.Underway i formId payload ∨ s.Closed i := by
  refine hrun.keeps (P := fun s => s.Underway i formId payload ∨ s.Closed i) ?_ (.inl hstart)
  rintro s move events next (hs | hs) h
  · exact h.underway hs
  · exact .inr (h.closed hs)

/-- No submission is under way and closed. -/
theorem Underway.not_closed (h : s.Underway i formId payload) : ¬ s.Closed i := by
  rintro ⟨stage, hstage, hclosed⟩
  rcases h with h | h <;> rw [h] at hstage <;> cases hstage <;> cases hclosed

end LiveForm.Session
