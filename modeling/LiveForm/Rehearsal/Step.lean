import LiveForm.Engine.Load
import LiveForm.Engine.Submit
import LiveForm.Rehearsal.Scene

/-!
# Steps of a rehearsal

A `Step` is something to be done: a call of the engine, a load, a submission, a question, or several
steps at once. `Step.begin` does as much of it as can be done without waiting; the rest is a `Task`.
`Task.resume` goes on with a task as far as it gets at the time that it is. What happens at one
moment happens in the order in which the steps are written.
-/

namespace LiveForm

/-- A question about the engine. -/
inductive Query where
  | field (id : String)
  | value (name : String)
  | error (name : String)
  | visible (fieldId : String)
  | view
  | definition
  | options
  | description

/-- Something to be done. -/
inductive Step where
  | call (call : EngineCall)
  | load (source : FormSource)
  /-- Submit. With a limit the submission is dropped if it takes longer. -/
  | submit (limit : Option Nat)
  | wait (time : Nat)
  | attachRenderer
  | addRule (name : String) (rule : HostRule)
  | addWidget (kind : String) (widget : Widget)
  | listen (kind : Option EventKind) (limit : Nat) (act : ListenerAct)
  | dismiss (listener : Nat)
  | ask (query : Query)
  /-- Wait, then do something. -/
  | after (delay : Nat) (step : Step)
  /-- Do several things at once. -/
  | join (steps : List Step)

/-- What came of a step. -/
inductive Outcome where
  | nothing
  | flag (value : Bool)
  | load (outcome : LoadOutcome)
  | submit (outcome : SubmitOutcome)
  /-- A submission was dropped. -/
  | dropped
  | dismissed (found : Option Bool)
  | field (field : Option FieldDefinition)
  | value (value : Option Json)
  | error (error : Option String)
  | view (view : Option ViewNode)
  | definition (d : Option FormDefinition)
  | options (options : EngineOptions)
  | text (text : String)
  | all (outcomes : List Outcome)

/-- The answer to a question. -/
def Query.answer (q : Query) (r : Rehearsal) : Outcome :=
  let e := r.engine
  match q with
  | field id => .field (e.definition.bind fun d => d.field? id)
  | value name => .value (e.state.value? name)
  | error name => .error (e.state.error? name)
  | visible fieldId => .flag (e.isVisible fieldId)
  | view => .view e.view
  | definition => .definition e.definition
  | options => .options e.options
  | description => .text (e.describe r.bus.describe)

/-- A step that was begun. -/
inductive Task where
  | done (outcome : Outcome)
  /-- Nothing but the time is waited for. -/
  | waiting (wake : Nat)
  | delayed (wake : Nat) (step : Step)
  /-- A load waits for a form. -/
  | fetching (wake number : Nat) (arrives : Except TransportError FormDefinition)
  /-- A submission waits for its answer, or for the moment when it is dropped. -/
  | submitting (wake : Nat) (limit : Option Nat) (payload : Payload)
    (answer : Except TransportError SubmitResponse)
  | group (tasks : List Task)

namespace Rehearsal

/-- The moment after a delay. -/
def momentAfter (r : Rehearsal) (delay : Nat) : Nat := r.state.now + delay

/-- Finish a load. -/
def finishLoad (r : Rehearsal) (number : Nat) (arrived : Except FormError FormDefinition) :
    Option (Task × Rehearsal) :=
  (r.act fun e => e.finishLoad number arrived).map fun (outcome, r) => (.done (.load outcome), r)

/-- Start a load. -/
def beginLoad (r : Rehearsal) (source : FormSource) : Option (Task × Rehearsal) := do
  let (number, r) ← r.act fun e => some e.beginLoad
  match source with
  | .definition d => r.finishLoad number (.ok d)
  | .id formId =>
    let answer := r.state.counterpart.fetch formId
    if answer.delay = 0 then
      r.finishLoad number (answer.answer.mapError TransportError.toFormError)
    else return (.fetching (r.momentAfter answer.delay) number answer.answer, r)

/-- End a submission and give the flag back. -/
def endSubmit (r : Rehearsal) (outcome : Outcome) : Task × Rehearsal :=
  (.done outcome, r.withEngine r.engine.release)

/-- Finish a submission with its answer. -/
def finishSubmit (r : Rehearsal) (payload : Payload)
    (answer : Except TransportError SubmitResponse) : Option (Task × Rehearsal) :=
  (r.act fun e => some (e.finishSubmit payload answer)).map fun (outcome, r) =>
    r.endSubmit (.submit outcome)

/-- Start a submission. -/
def beginSubmit (r : Rehearsal) (limit : Option Nat) : Option (Task × Rehearsal) :=
  match r.engine.acquire with
  | none => some (.done (.submit (.skipped .inFlight)), r)
  | some e => do
    let (prepared, r) ← (r.withEngine e).act fun e => some e.beginSubmit
    match prepared with
    | .error outcome => return r.endSubmit (.submit outcome)
    | .ok (formId, payload) =>
      let (answer, counterpart) := r.state.counterpart.submit formId payload
      let r : Rehearsal := { r with state := { r.state with counterpart := counterpart } }
      if answer.delay = 0 then r.finishSubmit payload answer.answer
      else if limit = some 0 then return r.endSubmit .dropped
      else
        let wake := r.momentAfter answer.delay
        return (.submitting wake (limit.map r.momentAfter) payload answer.answer, r)

end Rehearsal

namespace Step

mutual

/-- Begin a step. -/
def begin (r : Rehearsal) : Step → Option (Task × Rehearsal)
  | .call c =>
    (r.act (Engine.obey c)).map fun (valid, r) =>
      match c with
      | .validate => (.done (.flag valid), r)
      | _ => (.done .nothing, r)
  | .load source => r.beginLoad source
  | .submit limit => r.beginSubmit limit
  | .wait time =>
    some (if time = 0 then (.done .nothing, r) else (.waiting (r.momentAfter time), r))
  | .attachRenderer => some (.done .nothing, r.withEngine r.engine.attachRenderer)
  | .addRule name rule =>
    let e := r.engine
    some (.done .nothing, r.withEngine { e with validator := e.validator.addRule name rule })
  | .addWidget kind widget =>
    let e := r.engine
    some (.done .nothing, r.withEngine { e with widgets := (e.widgets.register kind widget).2 })
  | .listen kind limit act => some (.done .nothing, r.listen kind limit act)
  | .dismiss listener =>
    let (found, r) := r.dismiss listener
    some (.done (.dismissed found), r)
  | .ask query => some (.done (query.answer r), r)
  | .after delay step =>
    if delay = 0 then begin r step else some (.delayed (r.momentAfter delay) step, r)
  | .join steps => (beginAll r steps).map fun (tasks, r) => (.group tasks, r)

/-- Begin several steps, one after the other. -/
def beginAll (r : Rehearsal) : List Step → Option (List Task × Rehearsal)
  | [] => some ([], r)
  | step :: rest =>
    (begin r step).bind fun (task, r) =>
      (beginAll r rest).map fun (tasks, r) => (task :: tasks, r)

end

mutual

/-- The number of steps in a step. -/
def size : Step → Nat
  | .after _ step => size step + 1
  | .join steps => sizeAll steps + 1
  | _ => 1

/-- The number of steps in several steps. -/
def sizeAll : List Step → Nat
  | [] => 0
  | step :: rest => size step + sizeAll rest

end

end Step

namespace Task

mutual

/-- What came of a task, if it has ended. -/
def outcome? : Task → Option Outcome
  | .done outcome => some outcome
  | .group tasks => (outcomes? tasks).map .all
  | _ => none

/-- What came of several tasks, if all of them have ended. -/
def outcomes? : List Task → Option (List Outcome)
  | [] => some []
  | task :: rest =>
    match outcome? task, outcomes? rest with
    | some outcome, some outcomes => some (outcome :: outcomes)
    | _, _ => none

end

mutual

/-- The moments that a task waits for. -/
def wakes : Task → List Nat
  | .done _ => []
  | .waiting wake | .delayed wake _ | .fetching wake _ _ => [wake]
  | .submitting wake limit _ _ => wake :: limit.toList
  | .group tasks => wakesAll tasks

/-- The moments that several tasks wait for. -/
def wakesAll : List Task → List Nat
  | [] => []
  | task :: rest => wakes task ++ wakesAll rest

end

mutual

/-- Go on with a task. -/
def resume (r : Rehearsal) : Task → Option (Task × Rehearsal)
  | .done outcome => some (.done outcome, r)
  | .waiting wake =>
    some (if wake ≤ r.state.now then (.done .nothing, r) else (.waiting wake, r))
  | .delayed wake step =>
    if wake ≤ r.state.now then step.begin r else some (.delayed wake step, r)
  | .fetching wake number arrives =>
    if wake ≤ r.state.now then
      r.finishLoad number (arrives.mapError TransportError.toFormError)
    else some (.fetching wake number arrives, r)
  | .submitting wake limit payload answer =>
    if wake ≤ r.state.now then r.finishSubmit payload answer
    else if limit.any fun limit => limit ≤ r.state.now then some (r.endSubmit .dropped)
    else some (.submitting wake limit payload answer, r)
  | .group tasks => (resumeAll r tasks).map fun (tasks, r) => (.group tasks, r)

/-- Go on with several tasks, one after the other. -/
def resumeAll (r : Rehearsal) : List Task → Option (List Task × Rehearsal)
  | [] => some ([], r)
  | task :: rest =>
    (resume r task).bind fun (task, r) =>
      (resumeAll r rest).map fun (tasks, r) => (task :: tasks, r)

end

end Task

namespace Rehearsal

/-- Let time pass until a task has ended. It goes from one moment at which something is due to the
next; at each of them tasks go on first, and messages go away then. -/
def await : Nat → Task → Rehearsal → Option (Outcome × Rehearsal)
  | 0, _, _ => none
  | fuel + 1, task, r => do
    let r ← r.expireDue
    match task.outcome? with
    | some outcome => return (outcome, r)
    | none =>
      let moments := task.wakes ++ r.state.deadlines.map Prod.snd
      let next ← moments.min?
      let r : Rehearsal := { r with state := { r.state with now := next } }
      let (task, r) ← task.resume r
      await fuel task r

/-- Do a step and wait for its end. -/
def play (r : Rehearsal) (step : Step) : Option (Outcome × Rehearsal) := do
  let (task, r) ← step.begin r
  await (8 * step.size + r.state.engine.timers.length + 8) task r

end Rehearsal

end LiveForm
