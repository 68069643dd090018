import LiveForm.Proofs.Engine.Drawing
import LiveForm.Proofs.Session.Validation
import LiveForm.Proofs.Store.Soundness

/-!
# Loads that fail

A load has two moments at which it could touch the form: its start, and the arrival of what can or
cannot be used. Neither the start nor a failed end does. `Engine.form` is the form that an engine
holds. The start and the failed end are given in full: they go to a status, show a message and tell
of both, and the rest of the engine is as it was (`Engine.showing`), but for the count of loads and
the patterns that were compiled for the check.

An end that was not superseded is a failed one exactly if no definition arrived that can be used
(`FormDefinition.Usable`): there was an error on the way, or two fields share an identifier, or the
layout has too many levels, or the pattern of some field does not compile.
-/

namespace LiveForm

/-- The form that an engine holds, what was filled in and found wrong, and what of it is shown. -/
structure HeldForm where
  definition : Option FormDefinition
  data : Json
  errors : Errors
  touched : List String
  seeded : List String
  visibility : Keyed Bool
  view : Option ViewNode

namespace Engine

/-- The form that the engine holds. -/
def form (e : Engine) : HeldForm :=
  ⟨e.definition, e.state.data, e.state.errors, e.state.touched, e.seeded, e.visibility, e.view⟩

/-- The engine with a message in place of the one before. -/
def showing (e : Engine) (m : StatusMessage) : Engine :=
  { e with
    message := some m
    messages := m.id
    timers := if e.timed && e.options.messageTtl != 0 then e.timers ++ [m.id] else e.timers
    drawing := e.drawing.map fun d => d.tell m }

theorem drain_push_eq (e : Engine) (event : FormEvent) :
    (e.push event).drain = (e.drain.1 ++ [event], e.drain.2) := by
  simp [push, drain, FormState.drain]

theorem drain_setStatus_eq (e : Engine) (status : FormStatus) :
    (e.setStatus status).drain =
      (e.drain.1 ++ (if e.status = status then [] else [.statusChange e.status status]),
        { e.drain.2 with status := status }) := by
  unfold setStatus
  split
  · rename_i hsame
    subst hsame
    rw [List.append_nil]
    rfl
  · exact drain_push_eq { e with status := status } _

theorem drain_showMessage_eq (e : Engine) (text : String) (kind : MessageKind) :
    (e.showMessage text kind).drain =
      (e.drain.1 ++ [.message ⟨e.messages + 1, text, kind⟩],
        e.drain.2.showing ⟨e.messages + 1, text, kind⟩) := by
  refine Prod.ext (drain_showMessage e text kind) ?_
  have hshown (timers : List Nat)
      (htimers : timers = if e.timed && e.options.messageTtl != 0 then e.timers ++ [e.messages + 1]
        else e.timers) :
      { e.drain.2.showing ⟨e.messages + 1, text, kind⟩ with timers := timers } =
        e.drain.2.showing ⟨e.messages + 1, text, kind⟩ := by
    rw [htimers]
    rfl
  simp only [showMessage]
  split
  · rename_i htimed
    exact hshown _ (if_pos htimed).symm
  · rename_i huntimed
    exact hshown _ (if_neg huntimed).symm

/-- What a load does that is given up. -/
theorem drain_failLoad (e : Engine) (error : FormError) :
    (e.failLoad error).drain =
      (e.drain.1 ++ (if e.status = .loadError then [] else [.statusChange e.status .loadError]) ++
          [.message ⟨e.messages + 1, loadFailedText, .error⟩,
            .error loadFailedText error.userMessage],
        ({ e.drain.2 with status := .loadError }).showing
          ⟨e.messages + 1, loadFailedText, .error⟩) := by
  have hmessages : (e.setStatus .loadError).messages = e.messages :=
    congrArg Notice.count (notice_setStatus e .loadError)
  rw [failLoad, drain_push_eq, drain_showMessage_eq, drain_setStatus_eq, hmessages]
  simp only [List.append_assoc, List.singleton_append]

/-- What the start of a load does. -/
theorem beginLoad_eq (e : Engine) :
    e.beginLoad.2 =
      if e.options.showLoadingStates then
        (e.drain.1 ++ (if e.status = .loading then [] else [.statusChange e.status .loading]) ++
            [.message ⟨e.messages + 1, loadingText, .info⟩],
          ({ e.drain.2 with loads := e.loads + 1, status := .loading }).showing
            ⟨e.messages + 1, loadingText, .info⟩)
      else
        (e.drain.1 ++ (if e.status = .loading then [] else [.statusChange e.status .loading]),
          { e.drain.2 with loads := e.loads + 1, status := .loading }) := by
  have hmessages : (({ e with loads := e.loads + 1 }).setStatus .loading).messages = e.messages :=
    congrArg Notice.count (notice_setStatus _ .loading)
  have hoptions : (({ e with loads := e.loads + 1 }).setStatus .loading).options = e.options :=
    congrArg Content.options (content_setStatus _ .loading)
  simp only [beginLoad, update, hoptions]
  split
  · rw [drain_showMessage_eq, drain_setStatus_eq, hmessages]
    rfl
  · rw [drain_setStatus_eq]
    rfl

/-! ### Failures -/

/-- A load that fails goes to `loadError`, shows a message, and tells of both and of the error. -/
theorem finishLoad_failed {e e' : Engine} (h : e.Settled) {number : Nat}
    {arrived : Except FormError FormDefinition} {error : FormError} {events : List FormEvent}
    (hfailed : e.finishLoad number arrived = some (.failed error, events, e')) :
    ∃ patterns, (events, e') =
      ((if e.status = .loadError then [] else [.statusChange e.status .loadError]) ++
          [.message ⟨e.messages + 1, loadFailedText, .error⟩,
            .error loadFailedText error.userMessage],
        ({ e with
          status := .loadError
          validator := { e.validator with patterns := patterns } }).showing
            ⟨e.messages + 1, loadFailedText, .error⟩) := by
  obtain ⟨usable, patterns, -, hfinish⟩ := e.exists_finishLoad number arrived
  have hchecked : ({ e with validator := { e.validator with patterns := patterns } }).Settled := h
  obtain ⟨done, hconclude, rfl, rfl⟩ := update?_eq_some_iff.mp (hfinish.symm.trans hfailed)
  refine ⟨patterns, ?_⟩
  unfold conclude at hconclude
  split at hconclude
  · cases hconclude
  · cases usable with
    | ok d =>
      obtain ⟨_, -, heq⟩ := Option.map_eq_some_iff.mp hconclude
      cases heq
    | error other =>
      cases hconclude
      rw [drain_failLoad, hchecked.drain_eq, List.nil_append]

/-- A validator that keeps what texts compile to lets only definitions pass that can be used. -/
theorem usable_of_check {e : Engine} (hv : e.validator.patterns.Faithful) {d : FormDefinition}
    (h : (e.check d).1 = .ok ()) : d.Usable := by
  cases hcheck : d.check with
  | error error =>
    rw [check_of_error hcheck] at h
    cases h
  | ok =>
    rw [check_of_ok hcheck] at h
    exact ⟨hcheck, Validator.compiles_of_checkFields hv h⟩

/-- The load that was started last fails exactly if no definition arrives that can be used. -/
theorem exists_failed_iff {e : Engine} (hv : e.validator.patterns.Faithful) {number : Nat}
    (hnumber : e.loads = number) (arrived : Except FormError FormDefinition) :
    (∃ error events e', e.finishLoad number arrived = some (.failed error, events, e')) ↔
      ¬ ∃ d, arrived = .ok d ∧ d.Usable := by
  constructor
  · rintro ⟨error, events, e', hfailed⟩ ⟨d, rfl, husable⟩
    obtain ⟨v, htaken⟩ := finishLoad_usable husable e hnumber
    obtain ⟨_, -, heq⟩ := Option.map_eq_some_iff.mp (htaken.symm.trans hfailed)
    cases heq
  · intro hunusable
    cases arrived with
    | error error => exact ⟨error, _, _, finishLoad_error e hnumber error⟩
    | ok d =>
      cases hcheck : (e.check d).1 with
      | ok => exact absurd ⟨d, rfl, usable_of_check hv hcheck⟩ hunusable
      | error error =>
        have hloads : (e.check d).2.loads = number := by
          unfold check
          split <;> exact hnumber
        have hfailed : e.finishLoad number (.ok d) =
            some (.failed error, ((e.check d).2.failLoad error).drain) := by
          rw [finishLoad_ok, hcheck]
          simp only [update?, conclude, if_neg (not_not_intro hloads)]
          rfl
        exact ⟨error, _, _, hfailed⟩

end Engine

namespace Session

variable {options : EngineOptions} {timed : Bool} {s next : Session} {events : List FormEvent}
  {trace : List Turn}

/-- The start of a load counts it, goes to `loading`, and shows a message if the options ask. -/
theorem Run.startLoad_eq (hrun : Run (.fresh options timed) trace s) {n : Nat}
    {source : FormSource} (hstep : Step s (.startLoad n source) events next) :
    (events, next.engine) =
      if s.engine.options.showLoadingStates then
        ((if s.engine.status = .loading then [] else [.statusChange s.engine.status .loading]) ++
            [.message ⟨s.engine.messages + 1, Engine.loadingText, .info⟩],
          ({ s.engine with loads := s.engine.loads + 1, status := .loading }).showing
            ⟨s.engine.messages + 1, Engine.loadingText, .info⟩)
      else
        (if s.engine.status = .loading then [] else [.statusChange s.engine.status .loading],
          { s.engine with loads := s.engine.loads + 1, status := .loading }) := by
  cases hstep with
  | startLoad source hn =>
    have hstarted := s.engine.beginLoad_eq
    rw [hrun.settled.drain_eq] at hstarted
    exact hstarted

/-- The start of a load leaves the form as it is, and so does the end of a load that fails. The
start counts the load and goes to `loading`, with a message if the options ask for it. A failed end
goes to `loadError` with a message, and keeps patterns that were compiled for the check, which does
not show in any validation. The events tell of the status, the message and the error, and all else
is as it was. A load after which no other was started fails exactly if no definition arrives that
can be used, and then it always comes to its end. -/
theorem Run.failed_load (hrun : Run (.fresh options timed) trace s) :
    (∀ n source events next, Step s (.startLoad n source) events next →
      next.engine.form = s.engine.form ∧
      (events, next.engine) =
        if s.engine.options.showLoadingStates then
          ((if s.engine.status = .loading then [] else [.statusChange s.engine.status .loading]) ++
              [.message ⟨s.engine.messages + 1, Engine.loadingText, .info⟩],
            ({ s.engine with loads := s.engine.loads + 1, status := .loading }).showing
              ⟨s.engine.messages + 1, Engine.loadingText, .info⟩)
        else
          (if s.engine.status = .loading then [] else [.statusChange s.engine.status .loading],
            { s.engine with loads := s.engine.loads + 1, status := .loading })) ∧
    (∀ n answer events next error, Step s (.finishLoad n answer) events next →
      next.loads[n]? = some (.ended (.failed error)) →
      next.engine.form = s.engine.form ∧
      (∀ field value data, (next.engine.validator.validateField field value data).1 =
        (s.engine.validator.validateField field value data).1) ∧
      ∃ patterns, (events, next.engine) =
        ((if s.engine.status = .loadError then []
            else [.statusChange s.engine.status .loadError]) ++
            [.message ⟨s.engine.messages + 1, Engine.loadFailedText, .error⟩,
              .error Engine.loadFailedText error.userMessage],
          ({ s.engine with
            status := .loadError
            validator := { s.engine.validator with patterns := patterns } }).showing
              ⟨s.engine.messages + 1, Engine.loadFailedText, .error⟩)) ∧
    (∀ n number source answer events next, s.loads[n]? = some (.fetching number source) →
      ¬ Overtaken trace n → Step s (.finishLoad n answer) events next →
      ((∃ error, next.loads[n]? = some (.ended (.failed error))) ↔
        ¬ ∃ d, source.arrived answer = .ok d ∧ d.Usable)) ∧
    (∀ n number source answer, s.loads[n]? = some (.fetching number source) →
      ¬ Overtaken trace n → (¬ ∃ d, source.arrived answer = .ok d ∧ d.Usable) →
      ∃ events next, Step s (.finishLoad n answer) events next) := by
  refine ⟨?_, ?_, ?_, ?_⟩
  · intro n source events next hstep
    have hstarted := hrun.startLoad_eq hstep
    refine ⟨?_, hstarted⟩
    have hengine : next.engine = _ := congrArg Prod.snd hstarted
    rw [hengine]
    split <;> rfl
  · intro n answer events next error hstep hend
    obtain ⟨number, source, outcome, -, hfinish, hended⟩ := hstep.finishLoad_eq
    obtain rfl : outcome = .failed error :=
      LoadStage.ended.inj (Option.some.inj (hended.symm.trans hend))
    obtain ⟨patterns, heq⟩ := Engine.finishLoad_failed hrun.settled hfinish
    have hengine : next.engine = _ := congrArg Prod.snd heq
    -- The patterns that are kept now are what their texts compile to, as those before.
    obtain ⟨_, hlater⟩ := hstep.grounded hrun.grounded
    have hpatterns : patterns.Faithful := by
      rw [hengine] at hlater
      exact hlater.patterns
    refine ⟨by rw [hengine]; rfl, fun field value data => ?_, patterns, heq⟩
    rw [hengine]
    exact hrun.grounded.validateField_patterns hpatterns field value data
  · intro n number source answer events next hstage hlast hstep
    obtain ⟨number', source', outcome, hstage', hfinish, hended⟩ := hstep.finishLoad_eq
    cases hstage.symm.trans hstage'
    have hcurrent := hrun.loads_eq hstage hlast
    obtain ⟨done, hdone⟩ := hrun.grounded
    rw [← Engine.exists_failed_iff hdone.patterns hcurrent (source.arrived answer), hended]
    constructor
    · rintro ⟨error, heq⟩
      cases heq
      exact ⟨error, _, _, hfinish⟩
    · rintro ⟨error, events, e', hfailed⟩
      cases hfinish.symm.trans hfailed
      exact ⟨error, rfl⟩
  · intro n number source answer hstage hlast hunusable
    obtain ⟨done, hdone⟩ := hrun.grounded
    obtain ⟨error, events, e', hfailed⟩ :=
      (Engine.exists_failed_iff hdone.patterns (hrun.loads_eq hstage hlast) _).mpr hunusable
    exact ⟨events, _, .finishLoad n answer hstage hfailed⟩

/-- A definition in which two fields share an identifier. -/
def brokenForm : FormDefinition := { noteForm with fields := noteForm.fields ++ noteForm.fields }

/-- A note that was typed outlives the load of a definition that cannot be used. -/
theorem failed_load_noteForm :
    ∃ trace s events next, Run (.fresh {} true) trace s ∧
      s.loads[1]? = some (.fetching 2 (.definition brokenForm)) ∧
      s.engine.state.data = .obj [("text", .str "x")] ∧
      Step s (.finishLoad 1 (.error (.unavailable ""))) events next ∧
      next.loads[1]? =
        some (.ended (.failed (.definition (.duplicateField "text" "note")))) ∧
      next.engine.form = s.engine.form ∧ next.engine.status = .loadError := by
  obtain ⟨origin, hloaded⟩ := run_loadedWith {} noteForm
  obtain ⟨trace, s, events, e', hrun, hstage, hdata, hfails⟩ : ∃ trace s events e',
      Run (.fresh {} true) trace s ∧
      s.loads[1]? = some (.fetching 2 (.definition brokenForm)) ∧
      s.engine.state.data = .obj [("text", .str "x")] ∧
      s.engine.finishLoad 2 (.ok brokenForm) =
        some (.failed (.definition (.duplicateField "text" "note")), events, e') := by
    have hrun := (hloaded.turn (step_calling (.setValue "text" (.str "x")) rfl)).turn
      (.startLoad (.definition brokenForm) rfl)
    exact ⟨_, _, _, _, hrun, rfl, rfl, rfl⟩
  have hstep := Step.finishLoad 1 (.error (.unavailable "")) hstage hfails
  have hend := List.getElem?_set_self
    (a := LoadStage.ended (.failed (.definition (.duplicateField "text" "note"))))
    (List.getElem?_eq_some_iff.mp hstage).1
  obtain ⟨hform, -, patterns, heq⟩ := hrun.failed_load.2.1 1 _ _ _ _ hstep hend
  have hstatus := congrArg (fun r : List FormEvent × Engine => r.2.status) heq
  exact ⟨trace, s, _, _, hrun, hstage, hdata, hstep, hend, hform, hstatus⟩

end Session

end LiveForm
