import LiveForm.Engine.Call
import LiveForm.Rehearsal.Counterpart

/-!
# The scene of a rehearsal

A rehearsal runs one engine against a `Counterpart`, with listeners. The `Scene` is what they all
share: the engine, the other side, the time, and the notes of what was seen. The first listener
notes every event. Others note what they see of the engine at that moment, and then may call the
engine themselves, but only for so many events.
-/

namespace LiveForm

/-- Something that was seen during a rehearsal. -/
inductive Note where
  | event (event : FormEvent)
  /-- What a listener saw of the engine when an event came. -/
  | saw (listener : Nat) (kind : EventKind) (data : Json) (status : FormStatus)

/-- What a listener does after its note. -/
inductive ListenerAct where
  | nothing
  | panic
  | call (call : EngineCall)

/-- What is shared in a rehearsal. -/
structure Scene where
  engine : Engine := {}
  counterpart : Counterpart := {}
  now : Nat := 0
  /-- When the messages whose time is running go away. -/
  deadlines : List (Nat × Nat) := []
  /-- The last note first. -/
  notes : List Note := []
  /-- For each listener the number of its subscription and of the events that it got. -/
  listeners : List (Nat × Nat) := []

/-- What a listener asks of the scene. -/
inductive Cue where
  | note (event : FormEvent)
  /-- A listener with a limit got an event. -/
  | see (listener limit : Nat) (kind : EventKind)
  | call (call : EngineCall)

namespace Scene

/-- Write a note. -/
def write (s : Scene) (note : Note) : Scene := { s with notes := note :: s.notes }

/-- How the scene obeys. A listener learns whether its limit allows it to act. -/
def obey : Obey Cue Bool Scene := fun cue s =>
  match cue with
  | .note event => some (true, [], s.write (.event event))
  | .see listener limit kind =>
    let count := (s.listeners[listener]?.map Prod.snd).getD 0
    let s := s.write (.saw listener kind s.engine.state.data s.engine.status)
    some (count < limit, [],
      { s with listeners := s.listeners.modify listener fun (id, n) => (id, n + 1) })
  | .call call =>
    (s.engine.obey call).map fun (answer, events, engine) =>
      (answer, events, { s with engine := engine })

end Scene

/-- An engine with listeners, in a scene. -/
abbrev Rehearsal := World Cue Bool Scene

namespace Rehearsal

/-- How deep calls of listeners inside calls of listeners may go. -/
def callDepth : Nat := 500

/-- The listener that notes every event. -/
def recorder : Handler Cue Bool := fun event => .command (.note event) fun _ => .done

/-- A listener that notes what it sees, and acts on its first events. -/
def listener (n limit : Nat) (act : ListenerAct) : Handler Cue Bool := fun event =>
  .command (.see n limit event.kind) fun allowed =>
    if !allowed then .done
    else
      match act with
      | .nothing => .done
      | .panic => .panic
      | .call call => .command (.call call) fun _ => .done

/-- The rehearsal of a scene, with the listener that notes every event. -/
def ofScene (s : Scene) : Rehearsal :=
  ⟨(({} : Bus (Handler Cue Bool)).subscribe none recorder).2, s⟩

/-- The engine. -/
def engine (r : Rehearsal) : Engine := r.state.engine

/-- Replace the engine. -/
def withEngine (r : Rehearsal) (e : Engine) : Rehearsal :=
  { r with state := { r.state with engine := e } }

/-- Change the engine, and dispatch what the change tells. -/
def act {α : Type} (r : Rehearsal) (change : Engine → Option (α × List FormEvent × Engine)) :
    Option (α × Rehearsal) :=
  (change r.engine).bind fun (answer, events, engine) =>
    (Dispatch.emitEach (Dispatch.emit Scene.obey callDepth) events (r.withEngine engine)).map
      fun r => (answer, r)

/-- Add a listener. -/
def listen (r : Rehearsal) (kind : Option EventKind) (limit : Nat) (act : ListenerAct) :
    Rehearsal :=
  let n := r.state.listeners.length
  let (id, bus) := r.bus.subscribe kind (listener n limit act)
  ⟨bus, { r.state with listeners := r.state.listeners ++ [(id, 0)] }⟩

/-- Take a listener away, if there was ever one with the number. -/
def dismiss (r : Rehearsal) (n : Nat) : Option Bool × Rehearsal :=
  match r.state.listeners[n]? with
  | some (id, _) =>
    let (found, bus) := r.bus.unsubscribe id
    (some found, { r with bus := bus })
  | none => (none, r)

/-- Take the notes, the oldest first. -/
def takeNotes (r : Rehearsal) : List Note × Rehearsal :=
  (r.state.notes.reverse, { r with state := { r.state with notes := [] } })

/-! ## Time -/

/-- Set the deadlines of the messages that were shown since. -/
def setDeadlines (r : Rehearsal) : Rehearsal :=
  let s := r.state
  let fresh := s.engine.timers.filter fun id => (s.deadlines.lookup id).isNone
  let deadline := s.now + s.engine.options.messageTtl.toNat
  { r with state := { s with deadlines := s.deadlines ++ fresh.map fun id => (id, deadline) } }

/-- Let the time of messages be over. -/
def expireAll : List Nat → Rehearsal → Option Rehearsal
  | [], r => some r
  | id :: rest, r =>
    let r : Rehearsal := { r with
      state := { r.state with deadlines := r.state.deadlines.filter fun d => d.1 != id } }
    (r.act fun e => some ((), e.expire id)).bind fun (_, r) => expireAll rest r

/-- Let the time of all messages be over whose deadline has come. Their deadlines are in the order
in which they were shown. -/
def expireDue (r : Rehearsal) : Option Rehearsal :=
  let r := r.setDeadlines
  expireAll ((r.state.deadlines.filter fun d => d.2 ≤ r.state.now).map Prod.fst) r

end Rehearsal

end LiveForm
