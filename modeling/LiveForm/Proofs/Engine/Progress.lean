import LiveForm.Proofs.Engine.Calls

/-!
# How far an engine is

`Engine.progress` is the part of an engine that says how far it is: the status, the flag of the
submission, the number of loads, and the status changes that wait to be told. Each operation has an
equation for it. Most leave it as it is; only `setStatus` moves it, and then by `Progress.goTo`. The
equations are `simp` lemmas, so that no later proof opens the operations again.
-/

namespace LiveForm

/-- The two ends of a status change. -/
def FormEvent.statusChange? : FormEvent → Option (FormStatus × FormStatus)
  | statusChange start stop => some (start, stop)
  | _ => none

/-- The status changes among events, in their order. -/
def statusChanges (events : List FormEvent) : List (FormStatus × FormStatus) :=
  events.filterMap FormEvent.statusChange?

theorem mem_statusChanges {events : List FormEvent} {start stop : FormStatus} :
    (start, stop) ∈ statusChanges events ↔ .statusChange start stop ∈ events := by
  simp only [statusChanges, List.mem_filterMap]
  constructor
  · rintro ⟨event, hmem, heq⟩
    cases event <;> simp_all [FormEvent.statusChange?]
  · exact fun h => ⟨_, h, rfl⟩

/-! ## Events that a state queues -/

namespace FormState

theorem statusChanges_fill {s s' : FormState} {values : Keyed Json} (h : s.fill values = some s') :
    statusChanges s'.pending = statusChanges s.pending := by
  refine fill_keeps (P := fun x => statusChanges x.pending = statusChanges s.pending) ?_ h rfl
  intro mid name value data _ hmid
  rw [← hmid, pending_changed, statusChanges, List.filterMap_append]
  exact List.append_nil _

@[simp] theorem statusChanges_setError (s : FormState) (name : String) (error : Option String) :
    statusChanges (s.setError name error).pending = statusChanges s.pending := by
  simp [setError, queue, statusChanges, FormEvent.statusChange?]

@[simp] theorem statusChanges_clearErrors (s : FormState) :
    statusChanges s.clearErrors.pending = statusChanges s.pending := by
  simp [clearErrors, queue, statusChanges, FormEvent.statusChange?]

@[simp] theorem statusChanges_reset (s : FormState) :
    statusChanges s.reset.pending = statusChanges s.pending := by
  simp [reset, queue, statusChanges, FormEvent.statusChange?]

end FormState

/-- A fold of steps keeps whatever each of them keeps. -/
theorem foldl_keeps {σ α β : Type} (f : σ → β) {g : σ → α → σ} (h : ∀ s a, f (g s a) = f s)
    (xs : List α) (s : σ) : f (xs.foldl g s) = f s := by
  induction xs generalizing s with
  | nil => rfl
  | cons x xs ih => rw [List.foldl_cons, ih, h]

/-! ## Progress -/

/-- How far an engine is. -/
structure Progress where
  status : FormStatus
  submitting : Bool
  loads : Nat
  /-- The status changes that wait to be told. -/
  changes : List (FormStatus × FormStatus)

/-- Go to a status. A change is noted only if the status is another one. -/
def Progress.goTo (p : Progress) (status : FormStatus) : Progress :=
  if p.status = status then p
  else { p with status := status, changes := p.changes ++ [(p.status, status)] }

namespace Engine

/-- How far the engine is. -/
def progress (e : Engine) : Progress :=
  ⟨e.status, e.submitting, e.loads, statusChanges e.drain.1⟩

theorem progress_push (e : Engine) {event : FormEvent} (h : event.statusChange? = none) :
    (e.push event).progress = e.progress := by
  simp [progress, push, drain, FormState.drain, statusChanges, h]

/-- A new state whose events tell of the same status changes keeps the progress. -/
theorem progress_withState (e : Engine) {s : FormState}
    (h : statusChanges s.pending = statusChanges e.state.pending) :
    ({ e with state := s }).progress = e.progress := by
  simp only [statusChanges] at h
  simp [progress, drain, FormState.drain, statusChanges, h]

@[simp] theorem progress_setStatus (e : Engine) (status : FormStatus) :
    (e.setStatus status).progress = e.progress.goTo status := by
  unfold setStatus Progress.goTo
  by_cases h : e.status = status
  · simp [h, progress]
  · simp [h, progress, push, drain, FormState.drain, statusChanges, FormEvent.statusChange?]

@[simp] theorem progress_rebuild (e : Engine) : e.rebuild.progress = e.progress := rfl

@[simp] theorem progress_refreshVisibility (e : Engine) :
    e.refreshVisibility.progress = e.progress := by
  refine (foldl_keeps progress ?_ _ _).trans rfl
  rintro e ⟨id, visible⟩
  exact progress_push e rfl

@[simp] theorem progress_showMessage (e : Engine) (text : String) (kind : MessageKind) :
    (e.showMessage text kind).progress = e.progress := by
  have h (drawing : Option Drawing) :
      (({ e with messages := e.messages + 1, drawing := drawing }).push
        (.message ⟨e.messages + 1, text, kind⟩)).progress = e.progress := progress_push _ rfl
  simp only [showMessage]
  split <;> exact h _

@[simp] theorem progress_clearMessage (e : Engine) : e.clearMessage.progress = e.progress := by
  unfold clearMessage; split <;> rfl

@[simp] theorem progress_validateNamed (e : Engine) (name : String) :
    (e.validateNamed name).progress = e.progress := by
  unfold validateNamed
  split
  · rfl
  · dsimp only
    split
    · rfl
    · exact progress_withState _ (FormState.statusChanges_setError _ _ _)

@[simp] theorem progress_storeErrors (e : Engine) (errors : Errors) :
    (e.storeErrors errors).progress = e.progress := by
  refine progress_withState e (Eq.trans ?_ (FormState.statusChanges_clearErrors _))
  exact foldl_keeps (fun s : FormState => statusChanges s.pending)
    (fun s entry => FormState.statusChanges_setError _ _ _) errors _

@[simp] theorem progress_writeErrors (e : Engine) : e.writeErrors.2.progress = e.progress :=
  progress_storeErrors { e with validator := _ } _

@[simp] theorem progress_follow (e : Engine) (names : List String) :
    (e.follow names).progress = e.progress := by
  simp only [follow, progress_rebuild]
  split
  · rw [foldl_keeps progress progress_validateNamed, progress_refreshVisibility]
  · exact progress_refreshVisibility e

@[simp] theorem progress_blur (e : Engine) (name : String) :
    (e.blur name).progress = e.progress := by
  have h : ({ e with state := e.state.touch name }).progress = e.progress :=
    progress_withState e (by simp)
  simp only [blur]
  split <;> simp [h]

@[simp] theorem progress_reset (e : Engine) : e.reset.progress = e.progress := by
  have h : ({ e with state := e.state.reset }).progress = e.progress :=
    progress_withState e (FormState.statusChanges_reset _)
  rw [reset, progress_push _ rfl, progress_rebuild, progress_refreshVisibility, h]

@[simp] theorem progress_render (e : Engine) : e.render.progress = e.progress := by
  simp only [render]
  split
  · rw [progress_push _ rfl, progress_rebuild]
  · rfl

/-- No call that is done at once changes how far the engine is. -/
theorem progress_perform {e e' : Engine} {call : EngineCall} {answer : Bool}
    (h : e.perform call = some (answer, e')) : e'.progress = e.progress := by
  refine perform_cases (P := fun x => x.progress = e.progress) h ?_ (progress_blur e)
    (progress_writeErrors e) (progress_reset e) (progress_render e)
  intro values state hstate
  rw [progress_follow]
  exact progress_withState e (FormState.statusChanges_fill hstate)

theorem progress_seedDefaults {e e' : Engine} {fields : List FieldDefinition}
    (h : e.seedDefaults fields = some e') : e'.progress = e.progress := by
  refine seedDefaults_keeps (P := fun x => x.progress = e.progress) ?_ h rfl
  intro mid id name value put state hput hmid
  rcases FormState.seed_cases hput with ⟨-, -, rfl⟩ | ⟨-, -, data, -, rfl⟩ <;> exact hmid

@[simp] theorem progress_present (e : Engine) (d : FormDefinition) :
    (e.present d).progress = e.progress.goTo .ready := by
  simp only [present]
  rw [progress_push _ rfl, progress_setStatus]
  split
  · rw [progress_clearMessage, progress_push _ rfl, progress_rebuild]
    rfl
  · rw [progress_push _ rfl, progress_rebuild]
    rfl

/-- Taking up a definition makes the engine ready. -/
theorem progress_install {e e' : Engine} {d : FormDefinition} (h : e.install d = some e') :
    e'.progress = e.progress.goTo .ready := by
  obtain ⟨sown, hsown, rfl⟩ := install_eq_some_iff.mp h
  have hkept : sown.progress = e.progress := (progress_seedDefaults hsown).trans rfl
  rw [progress_present, hkept]

@[simp] theorem progress_failLoad (e : Engine) (error : FormError) :
    (e.failLoad error).progress = e.progress.goTo .loadError := by
  rw [failLoad, progress_push _ rfl, progress_showMessage, progress_setStatus]

@[simp] theorem progress_accept (e : Engine) (payload : Payload) (response : SubmitResponse) :
    (e.accept payload response).progress = e.progress.goTo .submitted := by
  simp only [accept]
  generalize (if Text.isBlank response.message then submittedText else response.message) = text
  split
  · rw [progress_reset, progress_showMessage, progress_push _ rfl, progress_setStatus]
  · rw [progress_showMessage, progress_push _ rfl, progress_setStatus]

@[simp] theorem progress_reject (e : Engine) (reason : String) :
    (e.reject reason).progress = e.progress.goTo .submitError := by
  rw [reject, progress_push _ rfl, progress_showMessage, progress_setStatus]

/-- Once the events are taken no status change waits. -/
@[simp] theorem progress_drain (e : Engine) :
    e.drain.2.progress = { e.progress with changes := [] } := by
  simp [progress, drain, FormState.drain, statusChanges]

@[simp] theorem progress_expire (e : Engine) (id : Nat) :
    (e.expire id).2.progress = e.progress := by
  simp only [expire]
  split
  · exact progress_clearMessage _
  · rfl

end Engine

end LiveForm
