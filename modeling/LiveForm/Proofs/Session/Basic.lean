import LiveForm.Proofs.Engine.Update

/-!
# Sessions

A `Session` is one engine with all the loads and submissions that were ever begun on it. Each of
them waits between its moves, and between any two moves anything else may happen: edits, calls of
listeners, other loads, other submissions, messages that go away. `Step` says what a move does by
the engine's own functions, and a `Run` is any sequence of moves from a start, with the events that
each of them told. What holds of all runs holds of every interleaving.

A run is one in which no call of the engine stops the program. A call that puts a value in where there
is no room for it, or the end of a load whose defaults have none, makes no step.

A load starts and then finishes, or is dropped before. A submission enters by taking the flag, is
prepared, sent, and answered, and leaves by giving the flag back; it may be dropped as long as it has
the flag.
-/

namespace LiveForm

/-- What arrives for a load: the definition that it was given, or the answer of the transport. -/
def FormSource.arrived (answer : Except TransportError FormDefinition) :
    FormSource → Except FormError FormDefinition
  | id _ => answer.mapError TransportError.toFormError
  | definition d => .ok d

/-- How far a load is. -/
inductive LoadStage where
  /-- It has its number and waits. -/
  | fetching (number : Nat) (source : FormSource)
  | ended (outcome : LoadOutcome)
  | dropped

/-- The load has its outcome, or will never have one. -/
def LoadStage.closed : LoadStage → Bool
  | fetching _ _ => false
  | ended _ | dropped => true

/-- How far a submission is. -/
inductive SubmitStage where
  /-- It has the flag. -/
  | entered
  /-- It was prepared and is about to be sent. -/
  | prepared (formId : String) (payload : Payload)
  /-- It waits for the answer of the transport. -/
  | sent (formId : String) (payload : Payload)
  /-- It has its outcome and still has the flag. -/
  | finished (outcome : SubmitOutcome)
  | ended (outcome : SubmitOutcome)
  | dropped

namespace SubmitStage

/-- The submission has the flag. -/
def holds : SubmitStage → Bool
  | entered | prepared _ _ | sent _ _ | finished _ => true
  | ended _ | dropped => false

/-- The submission has its outcome, or will never have one. -/
def closed : SubmitStage → Bool
  | finished _ | ended _ | dropped => true
  | entered | prepared _ _ | sent _ _ => false

end SubmitStage

/-- An engine with the loads and submissions that were begun on it, in the order of their
beginnings. -/
structure Session where
  engine : Engine
  loads : List LoadStage := []
  submits : List SubmitStage := []

namespace Session

/-- A new engine. -/
def fresh (options : EngineOptions) (timed : Bool) : Session :=
  { engine := { options := options, timed := timed } }

/-- Something that happens to a session. Loads and submissions are named by their place. -/
inductive Move where
  | call (call : EngineCall)
  | attachRenderer
  | addRule (name : String) (rule : HostRule)
  | addWidget (kind : String) (widget : Widget)
  | expire (message : Nat)
  | startLoad (n : Nat) (source : FormSource)
  | finishLoad (n : Nat) (answer : Except TransportError FormDefinition)
  | dropLoad (n : Nat)
  | enter (i : Nat)
  | prepare (i : Nat)
  /-- The transport is given a payload for a form. -/
  | send (i : Nat) (formId : String) (payload : Payload)
  | answer (i : Nat) (answer : Except TransportError SubmitResponse)
  | leave (i : Nat)
  | drop (i : Nat)

namespace Move

/-- The load that a move is about. -/
def load? : Move → Option Nat
  | startLoad n _ | finishLoad n _ | dropLoad n => some n
  | _ => none

/-- The submission that a move is about. -/
def submit? : Move → Option Nat
  | enter i | prepare i | send i _ _ | answer i _ | leave i | drop i => some i
  | _ => none

/-- The move starts a load. -/
def startsLoad : Move → Bool
  | startLoad _ _ => true
  | _ => false

/-- The move registers a widget. -/
def addsWidget : Move → Bool
  | addWidget _ _ => true
  | _ => false

end Move

/-- What a move does, with the events that it tells. -/
inductive Step (s : Session) : Move → List FormEvent → Session → Prop
  | call {c : EngineCall} {answer : Bool} {events : List FormEvent} {e : Engine}
      (hobey : s.engine.obey c = some (answer, events, e)) :
      Step s (.call c) events { s with engine := e }
  | attachRenderer : Step s .attachRenderer [] { s with engine := s.engine.attachRenderer }
  | addRule (name : String) (rule : HostRule) :
      Step s (.addRule name rule) []
        { s with engine := { s.engine with validator := s.engine.validator.addRule name rule } }
  | addWidget (kind : String) (widget : Widget) :
      Step s (.addWidget kind widget) []
        { s with
          engine := { s.engine with widgets := (s.engine.widgets.register kind widget).2 } }
  | expire (message : Nat) :
      Step s (.expire message) (s.engine.expire message).1
        { s with engine := (s.engine.expire message).2 }
  | startLoad {n : Nat} (source : FormSource) (hn : n = s.loads.length) :
      Step s (.startLoad n source) s.engine.beginLoad.2.1
        { s with
          engine := s.engine.beginLoad.2.2
          loads := s.loads ++ [.fetching s.engine.beginLoad.1 source] }
  | finishLoad (n : Nat) {number : Nat} {source : FormSource}
      (answer : Except TransportError FormDefinition) {outcome : LoadOutcome}
      {events : List FormEvent} {e : Engine}
      (hstage : s.loads[n]? = some (.fetching number source))
      (hfinish : s.engine.finishLoad number (source.arrived answer) = some (outcome, events, e)) :
      Step s (.finishLoad n answer) events
        { s with engine := e, loads := s.loads.set n (.ended outcome) }
  | dropLoad (n : Nat) {number : Nat} {source : FormSource}
      (hstage : s.loads[n]? = some (.fetching number source)) :
      Step s (.dropLoad n) [] { s with loads := s.loads.set n .dropped }
  | enter {i : Nat} {e : Engine} (hi : i = s.submits.length) (hflag : s.engine.acquire = some e) :
      Step s (.enter i) [] { s with engine := e, submits := s.submits ++ [.entered] }
  | skip {i : Nat} (hi : i = s.submits.length) (hflag : s.engine.acquire = none) :
      Step s (.enter i) [] { s with submits := s.submits ++ [.ended (.skipped .inFlight)] }
  | prepare (i : Nat) {formId : String} {payload : Payload}
      (hstage : s.submits[i]? = some .entered)
      (hbegin : s.engine.beginSubmit.1 = .ok (formId, payload)) :
      Step s (.prepare i) s.engine.beginSubmit.2.1
        { s with
          engine := s.engine.beginSubmit.2.2
          submits := s.submits.set i (.prepared formId payload) }
  | refuse (i : Nat) {outcome : SubmitOutcome} (hstage : s.submits[i]? = some .entered)
      (hbegin : s.engine.beginSubmit.1 = .error outcome) :
      Step s (.prepare i) s.engine.beginSubmit.2.1
        { s with
          engine := s.engine.beginSubmit.2.2
          submits := s.submits.set i (.finished outcome) }
  | send (i : Nat) {formId : String} {payload : Payload}
      (hstage : s.submits[i]? = some (.prepared formId payload)) :
      Step s (.send i formId payload) []
        { s with submits := s.submits.set i (.sent formId payload) }
  | answer (i : Nat) {formId : String} {payload : Payload}
      (answer : Except TransportError SubmitResponse)
      (hstage : s.submits[i]? = some (.sent formId payload)) :
      Step s (.answer i answer) (s.engine.finishSubmit payload answer).2.1
        { s with
          engine := (s.engine.finishSubmit payload answer).2.2
          submits := s.submits.set i (.finished (s.engine.finishSubmit payload answer).1) }
  | leave (i : Nat) {outcome : SubmitOutcome} (hstage : s.submits[i]? = some (.finished outcome)) :
      Step s (.leave i) []
        { s with engine := s.engine.release, submits := s.submits.set i (.ended outcome) }
  | drop (i : Nat) {stage : SubmitStage} (hstage : s.submits[i]? = some stage)
      (hholds : stage.holds = true) :
      Step s (.drop i) []
        { s with engine := s.engine.release, submits := s.submits.set i .dropped }

/-- A move that was made, with the events that it told. -/
structure Turn where
  move : Move
  events : List FormEvent

/-- A session comes from a start by turns, the first one first. -/
inductive Run (start : Session) : List Turn → Session → Prop
  | rest : Run start [] start
  | turn {trace : List Turn} {s next : Session} {move : Move} {events : List FormEvent}
      (hrun : Run start trace s) (hstep : Step s move events next) :
      Run start (trace ++ [⟨move, events⟩]) next

variable {start s next : Session} {move : Move} {events : List FormEvent} {trace : List Turn}

/-! ## Runs -/

namespace Run

/-- What every step keeps holds after a run. -/
theorem keeps {P : Session → Prop}
    (hstep : ∀ s move events next, P s → Step s move events next → P next)
    (hrun : Run start trace s) (hstart : P start) : P s := by
  induction hrun with
  | rest => exact hstart
  | turn _ h ih => exact hstep _ _ _ _ ih h

/-- A run goes on where another one ended. -/
theorem append {mid : Session} {later : List Turn} (hfirst : Run start trace mid)
    (hlater : Run mid later s) : Run start (trace ++ later) s := by
  induction hlater with
  | rest => rwa [List.append_nil]
  | turn _ h ih =>
    rw [← List.append_assoc]
    exact ih.turn h

end Run

/-! ## Places -/

/-- A move that is not about a load leaves it as it is. -/
theorem Step.loads_eq (h : Step s move events next) {n : Nat} (hn : move.load? ≠ some n) :
    next.loads[n]? = s.loads[n]? := by
  cases h with
  | startLoad source hlength =>
    have hne : n ≠ s.loads.length := fun heq => hn (by rw [heq, ← hlength]; rfl)
    simp only [List.getElem?_append, List.getElem?_singleton]
    grind
  | finishLoad n answer hstage hfinish =>
    exact List.getElem?_set_ne fun heq => hn (congrArg some heq)
  | dropLoad n hstage => exact List.getElem?_set_ne fun heq => hn (congrArg some heq)
  | _ => rfl

/-- A move that is not about a submission leaves it as it is. -/
theorem Step.submits_eq (h : Step s move events next) {i : Nat} (hi : move.submit? ≠ some i) :
    next.submits[i]? = s.submits[i]? := by
  have happend (stage : SubmitStage) (hne : s.submits.length ≠ i) :
      (s.submits ++ [stage])[i]? = s.submits[i]? := by
    simp only [List.getElem?_append, List.getElem?_singleton]
    grind
  cases h with
  | enter hlength hflag => exact happend _ fun heq => hi (by rw [← heq, ← hlength]; rfl)
  | skip hlength hflag => exact happend _ fun heq => hi (by rw [← heq, ← hlength]; rfl)
  | prepare i hstage hbegin => exact List.getElem?_set_ne fun heq => hi (congrArg some heq)
  | refuse i hstage hbegin => exact List.getElem?_set_ne fun heq => hi (congrArg some heq)
  | send i hstage => exact List.getElem?_set_ne fun heq => hi (congrArg some heq)
  | answer i answer hstage => exact List.getElem?_set_ne fun heq => hi (congrArg some heq)
  | leave i hstage => exact List.getElem?_set_ne fun heq => hi (congrArg some heq)
  | drop i hstage hholds => exact List.getElem?_set_ne fun heq => hi (congrArg some heq)
  | _ => rfl

/-! ## Calls -/

variable {name : String} {value : Json} {values : Keyed Json}

/-- A change of a value does what the engine does with the value, and tells of it. -/
theorem Step.setValue_eq (h : Step s (.call (.setValue name value)) events next) :
    ∃ done, s.engine.setValue name value = some done ∧ done.drain.1 = events ∧
      done.drain.2 = next.engine := by
  cases h with
  | call hobey =>
    obtain ⟨done, hdone, rfl, rfl⟩ := Engine.obey_eq_some_iff.mp hobey
    obtain ⟨changed, hchanged, heq⟩ := Option.map_eq_some_iff.mp hdone
    cases heq
    exact ⟨_, hchanged, rfl, rfl⟩

/-- So does a change of several values. -/
theorem Step.setFormData_eq (h : Step s (.call (.setFormData values)) events next) :
    ∃ done, s.engine.setFormData values = some done ∧ done.drain.1 = events ∧
      done.drain.2 = next.engine := by
  cases h with
  | call hobey =>
    obtain ⟨done, hdone, rfl, rfl⟩ := Engine.obey_eq_some_iff.mp hobey
    obtain ⟨changed, hchanged, heq⟩ := Option.map_eq_some_iff.mp hdone
    cases heq
    exact ⟨_, hchanged, rfl, rfl⟩

/-- Whatever has a result for an engine can be asked of a session. -/
theorem exists_step_call_iff {c : EngineCall} :
    (∃ events next, Step s (.call c) events next) ↔ (s.engine.obey c).isSome = true := by
  rw [Option.isSome_iff_exists]
  constructor
  · rintro ⟨events, next, hstep⟩
    cases hstep with
    | call hobey => exact ⟨_, hobey⟩
  · rintro ⟨⟨answer, events, e⟩, hobey⟩
    exact ⟨events, _, .call hobey⟩

/-! ## Loads that arrive -/

/-- The end of a load is what the engine makes of what arrived. -/
theorem Step.finishLoad_eq {n : Nat} {answer : Except TransportError FormDefinition}
    (h : Step s (.finishLoad n answer) events next) :
    ∃ number source outcome, s.loads[n]? = some (.fetching number source) ∧
      s.engine.finishLoad number (source.arrived answer) = some (outcome, events, next.engine) ∧
      next.loads[n]? = some (.ended outcome) := by
  cases h with
  | @finishLoad _ number source _ outcome _ _ hstage hfinish =>
    have hplace := (List.getElem?_eq_some_iff.mp hstage).1
    exact ⟨number, source, outcome, hstage, hfinish, List.getElem?_set_self hplace⟩

/-- A load that waits can end exactly if the engine has a result for what arrives. -/
theorem exists_step_finishLoad_iff {n number : Nat} {source : FormSource}
    {answer : Except TransportError FormDefinition}
    (hstage : s.loads[n]? = some (.fetching number source)) :
    (∃ events next, Step s (.finishLoad n answer) events next) ↔
      (s.engine.finishLoad number (source.arrived answer)).isSome = true := by
  rw [Option.isSome_iff_exists]
  constructor
  · rintro ⟨events, next, hstep⟩
    obtain ⟨number', source', outcome, hstage', hfinish, -⟩ := hstep.finishLoad_eq
    cases hstage.symm.trans hstage'
    exact ⟨_, hfinish⟩
  · rintro ⟨⟨outcome, events, e⟩, hfinish⟩
    exact ⟨events, _, .finishLoad n answer hstage hfinish⟩

/-! ## Content -/

/-- An answer leaves what the user filled in as it is, unless it accepts the submission and the
options ask for a reset. -/
theorem Step.content_answer {i : Nat} {answer : Except TransportError SubmitResponse}
    (h : Step s (.answer i answer) events next) :
    next.engine.content =
      match answer with
      | .ok _ =>
        if s.engine.options.resetOnSubmit then { s.engine.content with data := .obj [] }.refreshed
        else s.engine.content
      | .error _ => s.engine.content := by
  cases h with
  | @answer _ formId payload _ hstage =>
    cases answer with
    | ok response => exact s.engine.content_accept payload response
    | error error => exact s.engine.content_reject error.message

/-- What a step does to what a user fills in and sees. -/
theorem Step.content_cases (h : Step s move events next) :
    next.engine.content = s.engine.content ∨
    next.engine.content = s.engine.content.redrawn ∨
    next.engine.content = ({ s.engine.content with data := .obj [] }).refreshed ∨
    (∃ c answer done, move = .call c ∧ s.engine.perform c = some (answer, done) ∧
      next.engine.content = done.content) ∨
    (∃ kind widget, move = .addWidget kind widget ∧ next.engine.content =
      { s.engine.content with widgets := (s.engine.widgets.register kind widget).2 }) ∨
    (∃ d v done, d.check = .ok () ∧ (∃ n answer, move = .finishLoad n answer) ∧
      ({ s.engine with validator := v }).install d = some done ∧
      next.engine.content = done.content) := by
  cases h with
  | @call c answer events e hobey =>
    obtain ⟨done, hdone, rfl, rfl⟩ := Engine.obey_eq_some_iff.mp hobey
    exact .inr (.inr (.inr (.inl ⟨c, answer, done, rfl, hdone, rfl⟩)))
  | addWidget kind widget => exact .inr (.inr (.inr (.inr (.inl ⟨kind, widget, rfl, rfl⟩))))
  | expire message => exact .inl (s.engine.content_expire message)
  | startLoad source hn => exact .inl s.engine.content_beginLoad
  | @finishLoad n number source answer outcome events e hstage hfinish =>
    obtain ⟨done, v, rfl, rfl,
      ⟨-, -, rfl⟩ | ⟨-, d, -, hcheck, hdone, -⟩ | ⟨-, error, -, rfl⟩⟩ :=
      Engine.finishLoad_eq_some hfinish
    · exact .inl rfl
    · exact .inr (.inr (.inr (.inr (.inr ⟨d, v, done, hcheck, ⟨n, answer, rfl⟩, hdone, rfl⟩))))
    · exact .inl (Engine.content_failLoad _ error)
  | enter hi hflag =>
    rw [(Engine.acquire_eq_some.mp hflag).2]
    exact .inl rfl
  | @prepare i formId payload hstage hbegin =>
    have heq : s.engine.beginSubmit.2.2 = (s.engine.writeErrors.2.setStatus .submitting).drain.2 :=
      congrArg (fun e => e.drain.2) (Engine.prepare_ok hbegin).2
    rw [heq, Engine.content_drain, Engine.content_setStatus, Engine.content_writeErrors]
    exact .inr (.inl rfl)
  | @refuse i outcome hstage hbegin =>
    rcases (Engine.prepare_error hbegin).2 with heq | heq
    · exact .inl heq
    · exact .inr (.inl heq)
  | answer i answer hstage =>
    have hcontent := (Step.answer i answer hstage).content_answer
    split at hcontent
    · split at hcontent
      · exact .inr (.inr (.inl hcontent))
      · exact .inl hcontent
    · exact .inl hcontent
  | _ => exact .inl rfl

/-- The options stay as they are. -/
theorem Step.options_eq (h : Step s move events next) :
    next.engine.options = s.engine.options := by
  show next.engine.content.options = s.engine.content.options
  rcases h.content_cases with
    heq | heq | heq | ⟨c, answer, done, -, hdone, heq⟩ | ⟨kind, widget, -, heq⟩ |
      ⟨d, v, done, -, -, hdone, heq⟩
  · rw [heq]
  · rw [heq]; rfl
  · rw [heq]; rfl
  · rw [heq, Engine.content_perform hdone]
  · rw [heq]
  · obtain ⟨sown, hsown, hinstalled⟩ := Engine.content_install hdone
    rw [heq, hinstalled, Engine.content_seedDefaults hsown]; rfl

theorem Run.options_eq {options : EngineOptions} {timed : Bool}
    (hrun : Run (.fresh options timed) trace s) : s.engine.options = options :=
  hrun.keeps (fun _ _ _ _ heq h => h.options_eq.trans heq) rfl

/-! ## Events -/

/-- A step of a settled engine leaves a settled engine. -/
theorem Step.settled (h : Step s move events next) (hsettled : s.engine.Settled) :
    next.engine.Settled := by
  cases h with
  | call hobey =>
    obtain ⟨done, -, -, rfl⟩ := Engine.obey_eq_some_iff.mp hobey
    exact Engine.settled_drain done
  | expire message => exact Engine.settled_expire hsettled message
  | startLoad source hn => exact Engine.settled_drain _
  | finishLoad n answer hstage hfinish =>
    obtain ⟨done, v, -, rfl, -⟩ := Engine.finishLoad_eq_some hfinish
    exact Engine.settled_drain done
  | enter hi hflag =>
    rw [(Engine.acquire_eq_some.mp hflag).2]
    exact hsettled
  | prepare i hstage hbegin => exact Engine.settled_drain _
  | refuse i hstage hbegin => exact Engine.settled_drain _
  | answer i answer hstage => exact Engine.settled_drain _
  | _ => exact hsettled

/-- Between two moves nothing waits to be told. -/
theorem Run.settled {options : EngineOptions} {timed : Bool}
    (hrun : Run (.fresh options timed) trace s) : s.engine.Settled :=
  hrun.keeps (fun _ _ _ _ hsettled h => h.settled hsettled) rfl

/-! ## A session to look at -/

/-- A form with one field, which its layout shows. -/
def noteForm : FormDefinition where
  formId := "note"
  name := "Note"
  fields := [{ id := "text", name := "text", kind := .text }]
  layout := .wrap "root" [.field "slot" "text"]

/-- A new engine that loads a form. It has the form, if there is room for the defaults. -/
def loadedWith (options : EngineOptions) (d : FormDefinition) : Session :=
  let started := (fresh options true).engine.beginLoad.2.2
  match started.finishLoad 1 (.ok d) with
  | some (outcome, _, e) => { engine := e, loads := [.ended outcome] }
  | none => { engine := started, loads := [.fetching 1 (.definition d)] }

theorem run_loadedWith (options : EngineOptions) (d : FormDefinition) :
    ∃ origin, Run (.fresh options true) origin (loadedWith options d) := by
  have hstarted := (Run.rest : Run (.fresh options true) [] _).turn
    (.startLoad (.definition d) rfl)
  unfold loadedWith
  dsimp only
  split
  · rename_i outcome events e hfinish
    exact ⟨_, hstarted.turn (.finishLoad 0 (.error (.unavailable "")) rfl hfinish)⟩
  · exact ⟨_, hstarted⟩

/-- What a call tells and leaves. One that stops the program is not made. -/
def calling (s : Session) (c : EngineCall) : List FormEvent × Session :=
  match s.engine.obey c with
  | some (_, events, e) => (events, { s with engine := e })
  | none => ([], s)

theorem step_calling (c : EngineCall) (h : (s.engine.obey c).isSome = true) :
    Step s (.call c) (s.calling c).1 (s.calling c).2 := by
  obtain ⟨⟨answer, events, e⟩, hobey⟩ := Option.isSome_iff_exists.mp h
  rw [calling, hobey]
  exact .call hobey

/-- What the end of a load tells and leaves. One that stops the program is not made. -/
def arriving (s : Session) (n number : Nat) (arrived : Except FormError FormDefinition) :
    List FormEvent × Session :=
  match s.engine.finishLoad number arrived with
  | some (outcome, events, e) =>
    (events, { s with engine := e, loads := s.loads.set n (.ended outcome) })
  | none => ([], s)

theorem step_arriving (n : Nat) (answer : Except TransportError FormDefinition) {number : Nat}
    {source : FormSource} (hstage : s.loads[n]? = some (.fetching number source))
    (h : (s.engine.finishLoad number (source.arrived answer)).isSome = true) :
    Step s (.finishLoad n answer) (s.arriving n number (source.arrived answer)).1
      (s.arriving n number (source.arrived answer)).2 := by
  obtain ⟨⟨outcome, events, e⟩, hfinish⟩ := Option.isSome_iff_exists.mp h
  rw [arriving, hfinish]
  exact .finishLoad n answer hstage hfinish

/-- The note form can be loaded, submitted and sent. -/
theorem exists_sent (reset : Bool) :
    ∃ before told after s, Run (.fresh { resetOnSubmit := reset } true)
        (before ++ ⟨.prepare 0, told⟩ :: after) s ∧
      s.submits[0]? = some (.sent "note" ⟨.obj []⟩) ∧ s.engine.status = .submitting ∧
      s.engine.state.data = .obj [] := by
  obtain ⟨origin, hloaded⟩ := run_loadedWith { resetOnSubmit := reset } noteForm
  have hsent := ((hloaded.turn (.enter rfl rfl)).turn (.prepare 0 rfl rfl)).turn (.send 0 rfl)
  rw [List.append_assoc] at hsent
  exact ⟨_, _, [⟨.send 0 "note" ⟨.obj []⟩, []⟩], _, hsent, rfl, rfl, rfl⟩

end Session

end LiveForm
