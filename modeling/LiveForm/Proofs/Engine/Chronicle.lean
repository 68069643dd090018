import LiveForm.Proofs.Engine.Update

/-!
# The order of queued events

Events wait in two queues, that of the state and that of the engine, which takes over what waits in
the state whenever it adds an event of its own. A `QueueCall` is a call that may add to one of them.
A `Chronicle` notes the calls that are made in the course of a change and the events that they
queue, one after the other, whatever else of the engine is changed in between. What a change gives
out at its end is what its chronicle notes (`Chronicle.drain_eq`).

Every operation of the engine has a chronicle, in which a change of the status is told by nothing
but the call that makes it (`Engine.Chronicled`). The changes of the status that are queued
therefore follow one from the other.
-/

namespace LiveForm

/-! ## Calls that queue -/

/-- A call that changes a state. -/
inductive StateCall where
  | setValue (name : String) (value : Json)
  | seed (name : String) (value : Json)
  | setError (name : String) (error : Option String)
  | clearErrors
  | touch (name : String)
  | reset

namespace StateCall

/-- The state after a call. -/
def after (s : FormState) : StateCall → Option FormState
  | setValue name value => s.setValue name value
  | seed name value => (s.seed name value).map Prod.snd
  | setError name error => some (s.setError name error)
  | clearErrors => some s.clearErrors
  | touch name => some (s.touch name)
  | reset => some s.reset

/-- What a call queues in a state. -/
def queued (s : FormState) : StateCall → List FormEvent
  | setValue name value => ((s.data.set? name value).map (.fieldChange name value)).toList
  | setError name error =>
    [.errorChange name (error.filter fun m => m ≠ "") (s.setError name error).errors]
  | clearErrors => [.errorsCleared]
  | reset => [.formReset]
  | seed _ _ | touch _ => []

theorem pending_after {s s' : FormState} {c : StateCall} (h : c.after s = some s') :
    s'.pending = s.pending ++ c.queued s := by
  cases c with
  | setValue name value =>
    obtain ⟨data, hdata, rfl⟩ := FormState.setValue_eq_some_iff.mp h
    rw [FormState.pending_changed, queued, hdata]
    rfl
  | seed name value =>
    obtain ⟨⟨put, state⟩, hput, rfl⟩ := Option.map_eq_some_iff.mp h
    rw [queued, List.append_nil]
    exact FormState.seed_keeps (P := fun x => x.pending = s.pending) (fun _ _ hx => hx) hput rfl
  | touch name =>
    cases h
    exact (s.pending_touch name).trans (List.append_nil _).symm
  | setError | clearErrors | reset =>
    cases h
    rfl

/-- No call on a state queues a change of the status. -/
theorem statusChanges_queued (s : FormState) (c : StateCall) : statusChanges (c.queued s) = [] := by
  cases c with
  | setValue name value =>
    rw [queued]
    cases s.data.set? name value <;> rfl
  | _ => rfl

end StateCall

/-- A call in the course of a change that may queue an event: one on the state, or one of the engine
itself. -/
inductive QueueCall where
  | state (c : StateCall)
  | push (event : FormEvent)
  | setStatus (status : FormStatus)

namespace QueueCall

/-- The engine after a call. -/
def after (e : Engine) : QueueCall → Option Engine
  | state c => (c.after e.state).map fun state => { e with state := state }
  | push event => some (e.push event)
  | setStatus status => some (e.setStatus status)

/-- What a call queues. -/
def queued (e : Engine) : QueueCall → List FormEvent
  | state c => c.queued e.state
  | push event => [event]
  | setStatus status => if e.status = status then [] else [.statusChange e.status status]

/-- The call adds no change of the status without making it. -/
def Plain : QueueCall → Prop
  | push event => event.statusChange? = none
  | state _ | setStatus _ => True

theorem drain_after {e e' : Engine} {c : QueueCall} (h : c.after e = some e') :
    e'.drain.1 = e.drain.1 ++ c.queued e := by
  cases c with
  | state c =>
    obtain ⟨state, hstate, rfl⟩ := Option.map_eq_some_iff.mp h
    show e.outbox ++ state.pending = e.outbox ++ e.state.pending ++ c.queued e.state
    rw [StateCall.pending_after hstate, List.append_assoc]
  | push event =>
    cases h
    exact e.drain_push event
  | setStatus status =>
    cases h
    exact e.drain_setStatus status

end QueueCall

/-! ## Changes of the status -/

/-- Changes of the status lead from one status to another: each starts where the one before it
ended, and goes to another status. -/
def FormStatus.Chain (start : FormStatus) : List (FormStatus × FormStatus) → FormStatus → Prop
  | [], stop => start = stop
  | (a, b) :: rest, stop => a = start ∧ a ≠ b ∧ b.Chain rest stop

theorem FormStatus.Chain.append {start mid stop : FormStatus}
    {changes later : List (FormStatus × FormStatus)} (hfirst : start.Chain changes mid)
    (hlast : mid.Chain later stop) : start.Chain (changes ++ later) stop := by
  induction changes generalizing start with
  | nil =>
    obtain rfl : start = mid := hfirst
    exact hlast
  | cons change rest ih =>
    obtain ⟨hstart, hother, hrest⟩ := hfirst
    exact ⟨hstart, hother, ih hrest⟩

/-- A status that is set leads there, with a change unless it is there already. -/
theorem FormStatus.chain_set (start stop : FormStatus) :
    start.Chain (if start = stop then [] else [(start, stop)]) stop := by
  split
  · assumption
  · rename_i hother
    exact ⟨rfl, hother, rfl⟩

theorem statusChanges_append (events later : List FormEvent) :
    statusChanges (events ++ later) = statusChanges events ++ statusChanges later :=
  List.filterMap_append

theorem QueueCall.Plain.chain {c : QueueCall} (h : c.Plain) {e e' : Engine}
    (hafter : c.after e = some e') : e.status.Chain (statusChanges (c.queued e)) e'.status := by
  cases c with
  | state c =>
    obtain ⟨state, -, rfl⟩ := Option.map_eq_some_iff.mp hafter
    rw [queued, c.statusChanges_queued]
    rfl
  | push event =>
    cases hafter
    rw [queued, statusChanges, List.filterMap_cons_none h]
    rfl
  | setStatus status =>
    have hstatus : (e.setStatus status).status = status := by
      unfold Engine.setStatus
      split
      · assumption
      · rfl
    have hchanges : statusChanges (queued e (.setStatus status)) =
        if e.status = status then [] else [(e.status, status)] := by
      rw [queued]
      split <;> rfl
    cases hafter
    rw [hchanges, hstatus]
    exact e.status.chain_set status

namespace Engine

/-! ## Chronicles -/

/-- Calls are made on an engine, one after the other, and queue events. In between anything may
change but the status and the two queues with the state. A call that has no result is not among
them: where it is made, the change comes to no end. -/
inductive Chronicle (start : Engine) : List QueueCall → List FormEvent → Engine → Prop
  | start : Chronicle start [] [] start
  | call {calls : List QueueCall} {events : List FormEvent} {e e' : Engine} (c : QueueCall)
      (hbefore : Chronicle start calls events e) (hafter : c.after e = some e') :
      Chronicle start (calls ++ [c]) (events ++ c.queued e) e'
  | elsewhere {calls : List QueueCall} {events : List FormEvent} {e e' : Engine}
      (hbefore : Chronicle start calls events e) (hstate : e'.state = e.state)
      (houtbox : e'.outbox = e.outbox) (hstatus : e'.status = e.status) :
      Chronicle start calls events e'

variable {e mid e' : Engine} {calls later : List QueueCall} {events told : List FormEvent}

namespace Chronicle

theorem trans (hfirst : e.Chronicle calls events mid) (hlast : mid.Chronicle later told e') :
    e.Chronicle (calls ++ later) (events ++ told) e' := by
  induction hlast with
  | start =>
    rw [List.append_nil, List.append_nil]
    exact hfirst
  | call c _ hafter ih =>
    rw [← List.append_assoc, ← List.append_assoc]
    exact ih.call c hafter
  | elsewhere _ hstate houtbox hstatus ih => exact ih.elsewhere hstate houtbox hstatus

/-- What waits after a change is what waited before it and then what was queued, in that order. -/
theorem drain_eq (h : e.Chronicle calls events e') : e'.drain.1 = e.drain.1 ++ events := by
  induction h with
  | start => exact (List.append_nil _).symm
  | call c _ hafter ih => rw [QueueCall.drain_after hafter, ih, List.append_assoc]
  | elsewhere _ hstate houtbox _ ih =>
    rw [← ih, drain, drain, hstate, houtbox]

/-- The changes of the status that are queued lead to the status. -/
theorem chain (h : e.Chronicle calls events e') (hplain : ∀ c ∈ calls, c.Plain) :
    e.status.Chain (statusChanges events) e'.status := by
  induction h with
  | start => rfl
  | call c _ hafter ih =>
    rw [statusChanges_append]
    exact (ih fun other hother => hplain other (List.mem_append_left _ hother)).append
      ((hplain c (List.mem_append_right _ (List.mem_singleton.mpr rfl))).chain hafter)
  | elsewhere _ _ _ hstatus ih =>
    rw [hstatus]
    exact ih hplain

end Chronicle

/-- A change as a whole gives out what it queues, behind what waited, and leaves both queues
empty. -/
theorem Chronicle.update {α : Type} {change : Engine → α × Engine}
    (h : e.Chronicle calls events (change e).2) :
    (e.update change).2.1 = e.outbox ++ e.state.pending ++ events ∧
      (e.update change).2.2.outbox = [] ∧ (e.update change).2.2.state.pending = [] :=
  ⟨h.drain_eq, rfl, rfl⟩

/-- So does one that need not have a result, where it has one. -/
theorem Chronicle.update? {α : Type} {change : Engine → Option (α × Engine)} {answer : α}
    (h : e.Chronicle calls events e') (hchange : change e = some (answer, e')) :
    e.update? change =
      some (answer, e.outbox ++ e.state.pending ++ events, e'.drain.2) ∧
      e'.drain.2.outbox = [] ∧ e'.drain.2.state.pending = [] :=
  ⟨update?_eq_some_iff.mpr ⟨e', hchange, h.drain_eq, rfl⟩, rfl, rfl⟩

/-- One engine comes from another as a chronicle notes, and changes of the status are queued only
where they are made. -/
def Chronicled (e e' : Engine) : Prop :=
  ∃ calls events, e.Chronicle calls events e' ∧ ∀ c ∈ calls, c.Plain

namespace Chronicled

theorem refl (e : Engine) : e.Chronicled e := ⟨[], [], .start, nofun⟩

theorem trans (hfirst : e.Chronicled mid) (hlast : mid.Chronicled e') : e.Chronicled e' := by
  obtain ⟨calls, events, hcalls, hplain⟩ := hfirst
  obtain ⟨later, told, hlater, hplain'⟩ := hlast
  refine ⟨calls ++ later, events ++ told, hcalls.trans hlater, fun c hc => ?_⟩
  exact (List.mem_append.mp hc).elim (hplain c) (hplain' c)

end Chronicled

/-- What touches neither the status nor the queues needs no call. -/
theorem chronicled_elsewhere (hstate : e'.state = e.state) (houtbox : e'.outbox = e.outbox)
    (hstatus : e'.status = e.status) : e.Chronicled e' :=
  ⟨[], [], .elsewhere .start hstate houtbox hstatus, nofun⟩

theorem chronicled_call {c : QueueCall} (hplain : c.Plain) (h : c.after e = some e') :
    e.Chronicled e' :=
  ⟨[c], _, .call c .start h, List.forall_mem_singleton.mpr hplain⟩

/-- Where every step has a chronicle, all of them together do. -/
theorem chronicled_foldl {α : Type} {f : Engine → α → Engine} (hf : ∀ e x, Chronicled e (f e x))
    (xs : List α) (e : Engine) : e.Chronicled (xs.foldl f e) := by
  induction xs generalizing e with
  | nil => exact .refl e
  | cons x rest ih => exact (hf e x).trans (ih (f e x))

theorem chronicled_push (e : Engine) (event : FormEvent) (h : event.statusChange? = none) :
    e.Chronicled (e.push event) :=
  chronicled_call (c := .push event) h rfl

theorem chronicled_setStatus (e : Engine) (status : FormStatus) :
    e.Chronicled (e.setStatus status) :=
  chronicled_call (c := .setStatus status) trivial rfl

theorem chronicled_state {c : StateCall} {state : FormState} (h : c.after e.state = some state) :
    e.Chronicled { e with state := state } :=
  chronicled_call (c := .state c) trivial (congrArg (Option.map _) h)

/-! ## Parts of operations -/

theorem chronicled_rebuild (e : Engine) : e.Chronicled e.rebuild :=
  chronicled_elsewhere rfl rfl rfl

theorem chronicled_clearMessage (e : Engine) : e.Chronicled e.clearMessage := by
  unfold clearMessage
  split
  · exact chronicled_elsewhere rfl rfl rfl
  · exact .refl e

theorem chronicled_refreshVisibility (e : Engine) : e.Chronicled e.refreshVisibility := by
  have hmapped : e.Chronicled { e with visibility := e.currentVisibility } :=
    chronicled_elsewhere rfl rfl rfl
  exact hmapped.trans (chronicled_foldl (fun e _ => e.chronicled_push _ rfl) _ _)

theorem chronicled_showMessage (e : Engine) (text : String) (kind : MessageKind) :
    e.Chronicled (e.showMessage text kind) := by
  simp only [showMessage]
  generalize (e.drawing.map fun d => d.tell ⟨e.messages + 1, text, kind⟩) = drawing
  have hdrawn : e.Chronicled { e with messages := e.messages + 1, drawing := drawing } :=
    chronicled_elsewhere rfl rfl rfl
  refine (hdrawn.trans (chronicled_push _ (.message ⟨e.messages + 1, text, kind⟩) rfl)
    ).trans ?_
  split <;> exact chronicled_elsewhere rfl rfl rfl

theorem chronicled_validateNamed (e : Engine) (name : String) :
    e.Chronicled (e.validateNamed name) := by
  unfold validateNamed
  split
  · exact .refl e
  · rename_i field hfield
    dsimp only
    generalize e.validator.validateField field (e.state.value? name) e.state.data = result
    have hvalidated : e.Chronicled { e with validator := result.2 } :=
      chronicled_elsewhere rfl rfl rfl
    split
    · exact hvalidated
    · exact hvalidated.trans (chronicled_state (c := .setError name result.1) rfl)

theorem chronicled_storeErrors (e : Engine) (errors : Errors) :
    e.Chronicled (e.storeErrors errors) := by
  have hcleared : e.Chronicled { e with state := e.state.clearErrors } :=
    chronicled_state (c := .clearErrors) rfl
  rw [storeErrors]
  generalize e.state.clearErrors = state at hcleared
  induction errors generalizing state with
  | nil => exact hcleared
  | cons entry rest ih =>
    refine ih _ (hcleared.trans ?_)
    exact chronicled_state (c := .setError entry.1 (some entry.2)) rfl

theorem chronicled_writeErrors (e : Engine) : e.Chronicled e.writeErrors.2 := by
  have hvalidated (validator : Validator) : e.Chronicled { e with validator := validator } :=
    chronicled_elsewhere rfl rfl rfl
  exact ((hvalidated _).trans (chronicled_storeErrors _ _)).trans (chronicled_rebuild _)

/-! ## Calls that are done at once -/

theorem chronicled_fill {values : Keyed Json} {state : FormState}
    (h : e.state.fill values = some state) : e.Chronicled { e with state := state } := by
  induction values generalizing e with
  | nil =>
    cases h
    exact .refl e
  | cons entry rest ih =>
    obtain ⟨mid, hmid, hrest⟩ := Option.bind_eq_some_iff.mp h
    have hput : e.Chronicled { e with state := mid } :=
      chronicled_state (c := .setValue entry.1 entry.2) hmid
    have hlater : ({ e with state := mid } : Engine).Chronicled { e with state := state } :=
      ih hrest
    exact hput.trans hlater

theorem chronicled_follow (e : Engine) (names : List String) : e.Chronicled (e.follow names) := by
  simp only [follow]
  refine Chronicled.trans ?_ (chronicled_rebuild _)
  split
  · exact e.chronicled_refreshVisibility.trans (chronicled_foldl chronicled_validateNamed _ _)
  · exact e.chronicled_refreshVisibility

theorem chronicled_blur (e : Engine) (name : String) : e.Chronicled (e.blur name) := by
  have htouched : e.Chronicled { e with state := e.state.touch name } :=
    chronicled_state (c := .touch name) rfl
  simp only [blur]
  split
  · exact (htouched.trans (chronicled_validateNamed _ name)).trans (chronicled_rebuild _)
  · exact htouched

theorem chronicled_reset (e : Engine) : e.Chronicled e.reset := by
  have hreset : e.Chronicled { e with state := e.state.reset } :=
    chronicled_state (c := .reset) rfl
  exact ((hreset.trans (chronicled_refreshVisibility _)).trans (chronicled_rebuild _)).trans
    (chronicled_push _ _ rfl)

theorem chronicled_render (e : Engine) : e.Chronicled e.render := by
  simp only [render]
  split
  · exact e.chronicled_rebuild.trans (chronicled_push _ _ rfl)
  · exact e.chronicled_rebuild

/-- Every call that is done at once has a chronicle. -/
theorem chronicled_perform {call : EngineCall} {answer : Bool}
    (h : e.perform call = some (answer, e')) : e.Chronicled e' := by
  refine perform_cases h ?_ e.chronicled_blur e.chronicled_writeErrors e.chronicled_reset
    e.chronicled_render
  intro values state hstate
  exact (chronicled_fill hstate).trans (chronicled_follow _ _)

/-! ## Loads and submissions -/

theorem chronicled_seedDefaults {fields : List FieldDefinition}
    (h : e.seedDefaults fields = some e') : e.Chronicled e' := by
  refine seedDefaults_keeps (P := e.Chronicled) ?_ h (.refl e)
  intro mid id name value put state hput hmid
  have hnoted : mid.Chronicled { mid with seeded := id :: mid.seeded } :=
    chronicled_elsewhere rfl rfl rfl
  exact (hmid.trans hnoted).trans
    (chronicled_state (c := .seed name value) (congrArg (Option.map Prod.snd) hput))

theorem chronicled_present (e : Engine) (d : FormDefinition) : e.Chronicled (e.present d) := by
  have hmapped : e.Chronicled { e with visibility := e.currentVisibility } :=
    chronicled_elsewhere rfl rfl rfl
  have hdrawn := (hmapped.trans (chronicled_rebuild _)).trans (chronicled_push _ .formRendered rfl)
  simp only [present]
  refine Chronicled.trans (Chronicled.trans ?_ (chronicled_setStatus _ .ready))
    (chronicled_push _ _ rfl)
  split
  · exact hdrawn.trans (chronicled_clearMessage _)
  · exact hdrawn

theorem chronicled_install {d : FormDefinition} (h : e.install d = some e') : e.Chronicled e' := by
  obtain ⟨sown, hsown, rfl⟩ := install_eq_some_iff.mp h
  have hdefined : e.Chronicled { e with definition := some d } := chronicled_elsewhere rfl rfl rfl
  exact (hdefined.trans (chronicled_seedDefaults hsown)).trans (chronicled_present _ d)

theorem chronicled_failLoad (e : Engine) (error : FormError) : e.Chronicled (e.failLoad error) :=
  ((e.chronicled_setStatus .loadError).trans (chronicled_showMessage _ _ _)).trans
    (chronicled_push _ _ rfl)

theorem chronicled_prepare (e : Engine) : e.Chronicled e.prepare.2 := by
  unfold prepare
  split
  · exact .refl e
  · split
    · dsimp only
      split
      · exact e.chronicled_writeErrors.trans (chronicled_setStatus _ .submitting)
      · exact (e.chronicled_writeErrors.trans (chronicled_push _ _ rfl)).trans
          (chronicled_showMessage _ _ _)
    · exact .refl e

theorem chronicled_accept (e : Engine) (payload : Payload) (response : SubmitResponse) :
    e.Chronicled (e.accept payload response) := by
  simp only [accept]
  generalize (if Text.isBlank response.message then submittedText else response.message) = text
  have htold := ((e.chronicled_setStatus .submitted).trans
    (chronicled_push _ (.formSubmitted payload.data response.toJson) rfl)).trans
      (chronicled_showMessage _ text .success)
  split
  · exact htold.trans (chronicled_reset _)
  · exact htold

theorem chronicled_reject (e : Engine) (reason : String) : e.Chronicled (e.reject reason) :=
  ((e.chronicled_setStatus .submitError).trans (chronicled_showMessage _ _ _)).trans
    (chronicled_push _ _ rfl)

/-- The start of a load gives out what a chronicle notes. -/
theorem exists_chronicled_beginLoad (e : Engine) :
    ∃ started, e.Chronicled started ∧ e.beginLoad.2 = started.drain := by
  have hcounted : e.Chronicled { e with loads := e.loads + 1 } := chronicled_elsewhere rfl rfl rfl
  have hloading := hcounted.trans (chronicled_setStatus _ .loading)
  refine ⟨_, ?_, rfl⟩
  split
  · exact hloading.trans (chronicled_showMessage _ loadingText .info)
  · exact hloading

/-- The end of a load gives out what a chronicle notes, also where it is superseded. -/
theorem exists_chronicled_finishLoad {number : Nat} {arrived : Except FormError FormDefinition}
    {outcome : LoadOutcome} (h : e.finishLoad number arrived = some (outcome, events, e')) :
    ∃ ended, e.Chronicled ended ∧ (events, e') = ended.drain := by
  have hchecked (v : Validator) : e.Chronicled { e with validator := v } :=
    chronicled_elsewhere rfl rfl rfl
  obtain ⟨done, v, rfl, rfl, ⟨-, -, rfl⟩ | ⟨-, d, -, -, hdone, -⟩ | ⟨-, error, -, rfl⟩⟩ :=
    finishLoad_eq_some h
  · exact ⟨_, hchecked v, rfl⟩
  · exact ⟨done, (hchecked v).trans (chronicled_install hdone), rfl⟩
  · exact ⟨_, (hchecked v).trans (chronicled_failLoad _ error), rfl⟩

/-- The end of a submission gives out what a chronicle notes. -/
theorem exists_chronicled_finishSubmit (e : Engine) (payload : Payload)
    (answer : Except TransportError SubmitResponse) :
    ∃ ended, e.Chronicled ended ∧ (e.finishSubmit payload answer).2 = ended.drain := by
  cases answer with
  | ok response => exact ⟨_, e.chronicled_accept payload response, rfl⟩
  | error error => exact ⟨_, e.chronicled_reject error.message, rfl⟩

end Engine

end LiveForm
