import LiveForm.Proofs.Engine.Content
import LiveForm.Proofs.Engine.Queue

/-!
# What a change as a whole does

Between two changes an engine is `Settled`: nothing waits to be told. A change as a whole takes a
settled engine to a settled one and tells of what it queued. For each of them it is said here in
full what it can do: a load that arrives is superseded, taken up or given up (`finishLoad_cases`),
and a submission is prepared under the conditions of `Prepared`, or refused without a change of the
status (`prepare_error`).
-/

namespace LiveForm

namespace Progress

@[simp] theorem status_goTo (p : Progress) (status : FormStatus) :
    (p.goTo status).status = status := by
  unfold goTo
  split
  · assumption
  · rfl

@[simp] theorem submitting_goTo (p : Progress) (status : FormStatus) :
    (p.goTo status).submitting = p.submitting := by
  unfold goTo; split <;> rfl

@[simp] theorem loads_goTo (p : Progress) (status : FormStatus) :
    (p.goTo status).loads = p.loads := by
  unfold goTo; split <;> rfl

theorem changes_goTo (p : Progress) (status : FormStatus) :
    (p.goTo status).changes =
      p.changes ++ if p.status = status then [] else [(p.status, status)] := by
  unfold goTo
  split
  · rw [List.append_nil]
  · rfl

end Progress

namespace Validator

/-- A check of patterns adds to the compiled patterns, and leaves all else. -/
theorem checkFields_snd (v : Validator) (fields : List FieldDefinition) :
    (v.checkFields fields).2 = { v with patterns := (v.checkFields fields).2.patterns } := by
  fun_induction checkFields v fields with
  | case1 v => rfl
  | case2 v field rest hnone ih => exact ih
  | case3 v field rest source hsource pattern patterns hcompile ih => exact ih
  | case4 v field rest source hsource patterns hcompile => rfl

theorem checkPatterns_snd (v : Validator) (d : FormDefinition) :
    (v.checkPatterns d).2 = { v with patterns := (v.checkPatterns d).2.patterns } :=
  v.checkFields_snd d.fields

end Validator

namespace Engine

/-- Nothing waits to be told. -/
def Settled (e : Engine) : Prop := e.drain.1 = []

theorem settled_drain (e : Engine) : e.drain.2.Settled := drain_drain e

/-- No status change waits in a settled engine. -/
theorem Settled.changes {e : Engine} (h : e.Settled) : e.progress.changes = [] := by
  show statusChanges e.drain.1 = []
  rw [h]
  rfl

theorem Settled.progress_eq {e : Engine} (h : e.Settled) :
    e.progress = { e.progress with changes := [] } := by
  rw [← h.changes]

/-- Taking the events of a settled engine does nothing. -/
theorem Settled.drain_eq {e : Engine} (h : e.Settled) : e.drain = ([], e) := by
  obtain ⟨houtbox, hpending⟩ : e.outbox = [] ∧ e.state.pending = [] := List.append_eq_nil_iff.mp h
  have hstate : ({ e.state with pending := [] } : FormState) = e.state := hpending ▸ rfl
  have hsame : ({ e with outbox := [] } : Engine) = e := houtbox ▸ rfl
  calc
    e.drain = (e.drain.1, { e with state := { e.state with pending := [] }, outbox := [] }) := rfl
    _ = ([], e) := by rw [h, hstate]; exact congrArg _ hsame

/-- A change that leaves nothing to be told tells of nothing. -/
theorem update_settled {α : Type} {e changed : Engine} {change : Engine → α × Engine} {answer : α}
    (hchange : change e = (answer, changed)) (h : changed.Settled) :
    e.update change = (answer, [], changed) := by
  simp only [update, hchange, h.drain_eq]

/-- What a drained engine tells of its status are the changes that waited. -/
theorem statusChanges_drain (e : Engine) : statusChanges e.drain.1 = e.progress.changes := rfl

/-! ## Messages that go away -/

/-- A message that goes away leaves nothing that waits. -/
theorem settled_expire {e : Engine} (h : e.Settled) (id : Nat) : (e.expire id).2.Settled := by
  simp only [expire]
  split
  · exact (drain_clearMessage _).trans h
  · exact h

theorem statusChanges_expire (e : Engine) (id : Nat) : statusChanges (e.expire id).1 = [] := by
  simp only [expire]
  split <;> rfl

/-! ## Loads -/

/-- The start of a load touches nothing that is seen of the form. -/
theorem content_beginLoad (e : Engine) : e.beginLoad.2.2.content = e.content := by
  simp only [beginLoad, update, content_drain]
  split
  · rw [content_showMessage, content_setStatus]
    rfl
  · rw [content_setStatus]
    rfl

/-- What the start of a load changes, before the events are taken. -/
theorem exists_beginLoad (e : Engine) :
    ∃ started : Engine, e.beginLoad = (e.loads + 1, started.drain) ∧
      started.progress = ({ e.progress with loads := e.loads + 1 }).goTo .loading := by
  have h : (({ e with loads := e.loads + 1 }).setStatus .loading).progress =
      ({ e.progress with loads := e.loads + 1 }).goTo .loading := progress_setStatus _ _
  refine ⟨_, rfl, ?_⟩
  dsimp only
  split
  · rw [progress_showMessage, h]
  · exact h

theorem check_of_error {e : Engine} {d : FormDefinition} {error : FormError}
    (h : d.check = .error error) : e.check d = (.error error, e) := by
  rw [check, h]

theorem check_of_ok {e : Engine} {d : FormDefinition} (h : d.check = .ok ()) :
    e.check d = ((e.validator.checkPatterns d).1,
      { e with validator := (e.validator.checkPatterns d).2 }) := by
  rw [check, h]

/-- The end of a load, once it is known what can be used of what arrived. -/
def conclude (number : Nat) (usable : Except FormError FormDefinition) (e : Engine) :
    Option (LoadOutcome × Engine) :=
  if e.loads ≠ number then some (.superseded, e)
  else
    match usable with
    | .ok d => (e.install d).map fun e => (.loaded d.formId, e)
    | .error error => some (.failed error, e.failLoad error)

theorem finishLoad_ok (e : Engine) (number : Nat) (d : FormDefinition) :
    e.finishLoad number (.ok d) =
      (e.check d).2.update? (conclude number ((e.check d).1.map fun _ => d)) := rfl

/-- A definition is checked before the rest of a load is done. What passes the check is what
arrived. -/
theorem exists_finishLoad (e : Engine) (number : Nat)
    (arrived : Except FormError FormDefinition) :
    ∃ usable patterns, (∀ d, usable = .ok d → arrived = .ok d ∧ d.check = .ok ()) ∧
      e.finishLoad number arrived =
        ({ e with validator := { e.validator with patterns := patterns } }).update?
          (conclude number usable) := by
  cases arrived with
  | error error => exact ⟨.error error, e.validator.patterns, nofun, rfl⟩
  | ok d =>
    rw [finishLoad_ok]
    cases hcheck : d.check with
    | error error =>
      rw [check_of_error hcheck]
      exact ⟨.error error, e.validator.patterns, nofun, rfl⟩
    | ok =>
      rw [check_of_ok hcheck, Validator.checkPatterns_snd]
      refine ⟨_, _, fun d' hd' => ?_, rfl⟩
      cases hpatterns : (e.validator.checkPatterns d).1 with
      | error error => rw [hpatterns] at hd'; cases hd'
      | ok => rw [hpatterns] at hd'; cases hd'; exact ⟨rfl, hcheck⟩

/-- A load that arrives is superseded, or its definition is taken up, or it is given up. It has no
result only where a definition cannot be taken up. -/
theorem finishLoad_cases (e : Engine) (number : Nat) (arrived : Except FormError FormDefinition) :
    (e.loads ≠ number ∧ ∃ v,
      e.finishLoad number arrived = some (.superseded, ({ e with validator := v }).drain)) ∨
    (e.loads = number ∧ ∃ d v, arrived = .ok d ∧ d.check = .ok () ∧
      e.finishLoad number arrived =
        (({ e with validator := v }).install d).map fun (done : Engine) =>
          (.loaded d.formId, done.drain)) ∨
    (e.loads = number ∧ ∃ error v,
      e.finishLoad number arrived =
        some (.failed error, (({ e with validator := v }).failLoad error).drain)) := by
  obtain ⟨usable, patterns, husable, hfinish⟩ := e.exists_finishLoad number arrived
  generalize { e.validator with patterns := patterns } = v at hfinish
  by_cases hnumber : e.loads = number
  · have hcurrent : ¬ ({ e with validator := v }).loads ≠ number := not_not_intro hnumber
    simp only [update?, conclude, if_neg hcurrent] at hfinish
    cases usable with
    | ok d =>
      obtain ⟨harrived, hcheck⟩ := husable d rfl
      rw [Option.map_map] at hfinish
      exact .inr (.inl ⟨hnumber, d, v, harrived, hcheck, hfinish⟩)
    | error error => exact .inr (.inr ⟨hnumber, error, v, hfinish⟩)
  · have hlate : ({ e with validator := v }).loads ≠ number := hnumber
    simp only [update?, conclude, if_pos hlate] at hfinish
    exact .inl ⟨hnumber, v, hfinish⟩

/-- What a load that has a result leaves. -/
theorem finishLoad_eq_some {e e' : Engine} {number : Nat}
    {arrived : Except FormError FormDefinition} {outcome : LoadOutcome} {events : List FormEvent}
    (h : e.finishLoad number arrived = some (outcome, events, e')) :
    ∃ done v, done.drain.1 = events ∧ done.drain.2 = e' ∧
      (e.loads ≠ number ∧ outcome = .superseded ∧ done = { e with validator := v } ∨
      e.loads = number ∧ (∃ d, arrived = .ok d ∧ d.check = .ok () ∧
        ({ e with validator := v }).install d = some done ∧ outcome = .loaded d.formId) ∨
      e.loads = number ∧ ∃ error, outcome = .failed error ∧
        done = ({ e with validator := v }).failLoad error) := by
  rcases e.finishLoad_cases number arrived with
    ⟨hlate, v, heq⟩ | ⟨hnumber, d, v, harrived, hcheck, heq⟩ | ⟨hnumber, error, v, heq⟩
  · obtain ⟨rfl, htold⟩ := Prod.mk.inj (Option.some.inj (heq.symm.trans h))
    exact ⟨_, v, congrArg Prod.fst htold, congrArg Prod.snd htold, .inl ⟨hlate, rfl, rfl⟩⟩
  · obtain ⟨done, hdone, hresult⟩ := Option.map_eq_some_iff.mp (heq.symm.trans h)
    obtain ⟨rfl, htold⟩ := Prod.mk.inj hresult
    exact ⟨done, v, congrArg Prod.fst htold, congrArg Prod.snd htold,
      .inr (.inl ⟨hnumber, d, harrived, hcheck, hdone, rfl⟩)⟩
  · obtain ⟨rfl, htold⟩ := Prod.mk.inj (Option.some.inj (heq.symm.trans h))
    exact ⟨_, v, congrArg Prod.fst htold, congrArg Prod.snd htold,
      .inr (.inr ⟨hnumber, error, rfl, rfl⟩)⟩

/-- A load that arrives too late tells of nothing. What it leaves are the patterns that were
compiled for the check. -/
theorem finishLoad_late {e : Engine} {number : Nat} (hlate : e.loads ≠ number) (h : e.Settled)
    (arrived : Except FormError FormDefinition) :
    ∃ patterns, e.finishLoad number arrived =
      some (.superseded, [],
        { e with validator := { e.validator with patterns := patterns } }) := by
  obtain ⟨usable, patterns, -, hfinish⟩ := e.exists_finishLoad number arrived
  refine ⟨patterns, ?_⟩
  have hchecked : ({ e with validator := { e.validator with patterns := patterns } }).Settled := h
  simp only [hfinish, update?, conclude, if_pos hlate, Option.map_some, hchecked.drain_eq]

/-! ## Submissions -/

/-- The flag is taken exactly if it is free, and nothing else changes. -/
theorem acquire_eq_some {e taken : Engine} :
    e.acquire = some taken ↔ e.submitting = false ∧ taken = { e with submitting := true } := by
  unfold acquire
  cases e.submitting with
  | true => simp
  | false => simp [eq_comm]

theorem acquire_eq_none {e : Engine} : e.acquire = none ↔ e.submitting = true := by
  unfold acquire
  cases e.submitting <;> simp

/-- What holds when a submission is prepared. -/
structure Prepared (e : Engine) (d : FormDefinition) (payload : Payload) : Prop where
  ready : e.status.isReady = true
  definition : e.definition = some d
  valid : (e.validator.validateAll (e.inScope d) e.state.data).1 = []
  payload : payload.data = e.state.data

/-- A submission without errors is prepared with the data as they are. -/
theorem prepare_eq {e : Engine} {d : FormDefinition} (hd : e.definition = some d)
    (hready : e.status.isReady = true) (hvalid : e.writeErrors.1.isEmpty = true) :
    e.prepare = (.ok (d.formId, ⟨e.state.data⟩), e.writeErrors.2.setStatus .submitting) := by
  have hcontent : (e.writeErrors.2.setStatus .submitting).content = e.content.redrawn := by
    rw [content_setStatus, content_writeErrors]
  have hdata : (e.writeErrors.2.setStatus .submitting).state.data = e.state.data :=
    congrArg Content.data hcontent
  simp only [prepare, hd, if_pos hready, if_pos hvalid, hdata]

/-- A submission with errors is refused with them. -/
theorem prepare_invalid {e : Engine} {d : FormDefinition} (hd : e.definition = some d)
    (hready : e.status.isReady = true) (hvalid : ¬ e.writeErrors.1.isEmpty = true) :
    e.prepare = (.error (.invalid e.writeErrors.1),
      (e.writeErrors.2.push (.validationFailed e.writeErrors.1)).showMessage fixErrorsText
        .error) := by
  simp only [prepare, hd, if_pos hready, if_neg hvalid]

/-- Where no form is there, or none that accepts submissions, nothing is done. -/
theorem prepare_notReady {e : Engine} (h : e.definition = none ∨ ¬ e.status.isReady = true) :
    e.prepare = (.error (.skipped .notReady), e) := by
  unfold prepare
  split
  · rfl
  · rcases h with h | h
    · simp_all
    · rw [if_neg h]

/-- What is to be sent is prepared, and the form goes to `submitting`. -/
theorem prepare_ok {e : Engine} {formId : String} {payload : Payload}
    (h : e.prepare.1 = .ok (formId, payload)) :
    (∃ d, d.formId = formId ∧ e.Prepared d payload) ∧
      e.prepare.2 = e.writeErrors.2.setStatus .submitting := by
  by_cases hready : e.status.isReady = true
  · cases hd : e.definition with
    | none => rw [prepare_notReady (.inl hd)] at h; cases h
    | some d =>
      by_cases hvalid : e.writeErrors.1.isEmpty = true
      · rw [prepare_eq hd hready hvalid] at h ⊢
        cases h
        refine ⟨⟨d, rfl, hready, hd, ?_, rfl⟩, rfl⟩
        simpa [writeErrors, hd] using hvalid
      · rw [prepare_invalid hd hready hvalid] at h
        cases h
  · rw [prepare_notReady (.inr hready)] at h
    cases h

/-- A submission that is skipped finds no form, or none that accepts submissions. -/
theorem prepare_skipped {e : Engine} {reason : SkipReason}
    (h : e.prepare.1 = .error (.skipped reason)) :
    e.prepare = (.error (.skipped .notReady), e) := by
  by_cases hready : e.status.isReady = true
  · cases hd : e.definition with
    | none => exact prepare_notReady (.inl hd)
    | some d =>
      by_cases hvalid : e.writeErrors.1.isEmpty = true
      · rw [prepare_eq hd hready hvalid] at h
        cases h
      · rw [prepare_invalid hd hready hvalid] at h
        cases h
  · exact prepare_notReady (.inr hready)

/-- A submission that is skipped does nothing and tells of nothing. -/
theorem beginSubmit_skipped {e : Engine} (hsettled : e.Settled) {reason : SkipReason}
    (h : e.beginSubmit.1 = .error (.skipped reason)) :
    e.beginSubmit = (.error (.skipped .notReady), [], e) :=
  update_settled (prepare_skipped h) hsettled

/-- A refused submission leaves the form as it was, but for errors, a message and a fresh view. -/
theorem prepare_error {e : Engine} {outcome : SubmitOutcome} (h : e.prepare.1 = .error outcome) :
    e.prepare.2.progress = e.progress ∧
      (e.prepare.2.content = e.content ∨ e.prepare.2.content = e.content.redrawn) := by
  by_cases hready : e.status.isReady = true
  · cases hd : e.definition with
    | none =>
      rw [prepare_notReady (.inl hd)]
      exact ⟨rfl, .inl rfl⟩
    | some d =>
      by_cases hvalid : e.writeErrors.1.isEmpty = true
      · rw [prepare_eq hd hready hvalid] at h
        cases h
      · rw [prepare_invalid hd hready hvalid]
        refine ⟨?_, .inr ?_⟩
        · rw [progress_showMessage, progress_push _ rfl, progress_writeErrors]
        · rw [content_showMessage, content_push, content_writeErrors]
  · rw [prepare_notReady (.inr hready)]
    exact ⟨rfl, .inl rfl⟩

end Engine

end LiveForm
