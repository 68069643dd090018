import LiveForm.Event.Basic

/-!
# Subscriptions and their dispatch

A `Bus` has subscriptions in the order in which they were made. Their numbers are never used twice.

A handler answers an event with a `Script`: what it does, step by step. It may subscribe,
unsubscribe, emit events, and command the program around, which may cause events in its turn.
`Dispatch.emit` delivers an event to those who were subscribed when it was emitted, each once and
in order, whatever they do meanwhile, and counts those that came to their end. One that breaks off
stops nobody else.

A handler can emit an event from inside a handler without end. `emit` therefore has a depth to which
it follows events inside events, and gives `none` where that does not suffice. It gives `none` also
where a command has no result, because the program around stops in the middle of it: what is left
then is not said.
-/

namespace LiveForm

/-- What a handler does. `κ` are the commands to the program around and `ρ` its answers. -/
inductive Script (κ ρ : Type) where
  | done
  /-- The handler breaks off. -/
  | panic
  | command (c : κ) (next : ρ → Script κ ρ)
  | subscribe (kind : Option EventKind) (handler : FormEvent → Script κ ρ)
    (next : Nat → Script κ ρ)
  | unsubscribe (id : Nat) (next : Bool → Script κ ρ)
  | emit (event : FormEvent) (next : Nat → Script κ ρ)

/-- What a subscriber does with an event. -/
abbrev Handler (κ ρ : Type) := FormEvent → Script κ ρ

/-- A handler, for events of one kind or of every kind. -/
structure Subscription (η : Type) where
  id : Nat
  kind : Option EventKind
  handler : η

/-- The subscriptions, in the order in which they were made. -/
structure Bus (η : Type) where
  /-- The number of the next subscription. It is meant to stay below 2⁶⁴: fewer subscriptions than
  that are ever made. -/
  nextId : Nat := 0
  subscriptions : List (Subscription η) := []

namespace Bus

variable {η : Type}

/-- Add a subscription. Its number is given back. -/
def subscribe (bus : Bus η) (kind : Option EventKind) (handler : η) : Nat × Bus η :=
  (bus.nextId, ⟨bus.nextId + 1, bus.subscriptions ++ [⟨bus.nextId, kind, handler⟩]⟩)

/-- Whether a subscription is there. -/
def has (bus : Bus η) (id : Nat) : Bool := bus.subscriptions.any fun s => s.id == id

/-- Remove a subscription. Whether it was there is given back. -/
def unsubscribe (bus : Bus η) (id : Nat) : Bool × Bus η :=
  (bus.has id, { bus with subscriptions := bus.subscriptions.filter fun s => s.id != id })

/-- The number of subscriptions. -/
def count (bus : Bus η) : Nat := bus.subscriptions.length

/-- The subscriptions for an event, in their order. -/
def listeners (bus : Bus η) (event : FormEvent) : List (Subscription η) :=
  bus.subscriptions.filter fun s => s.kind.all fun kind => kind == event.kind

/-- A bus for a log. -/
def describe (bus : Bus η) : String :=
  "EventBus \x7b subscribers: " ++ toString bus.count ++ " \x7d"

/-- An event is for the subscriptions of its kind and for those of every kind. -/
theorem mem_listeners {bus : Bus η} {event : FormEvent} {s : Subscription η} :
    s ∈ bus.listeners event ↔
      s ∈ bus.subscriptions ∧ (s.kind = none ∨ s.kind = some event.kind) := by
  rw [listeners, List.mem_filter]
  cases s.kind with
  | none => simp
  | some kind => simp

theorem has_subscribe (bus : Bus η) (kind : Option EventKind) (handler : η) :
    (bus.subscribe kind handler).2.has (bus.subscribe kind handler).1 = true := by
  simp [subscribe, has]

theorem has_unsubscribe (bus : Bus η) (id : Nat) : (bus.unsubscribe id).2.has id = false := by
  simp [unsubscribe, has]

end Bus

/-- The program around: its state, the subscriptions, and how it obeys a command. -/
structure World (κ ρ σ : Type) where
  bus : Bus (Handler κ ρ) := {}
  state : σ

/-- How the program around obeys a command: its answer, the events to dispatch before it, and its
next state, unless it stops. -/
abbrev Obey (κ ρ σ : Type) := κ → σ → Option (ρ × List FormEvent × σ)

namespace Dispatch

variable {κ ρ σ : Type}

/-- How an event is emitted: the number of handlers that came to their end, and the world after
it. -/
abbrev Emit (κ ρ σ : Type) := FormEvent → World κ ρ σ → Option (Nat × World κ ρ σ)

/-- Emit several events, one after the other. -/
def emitEach (emit : Emit κ ρ σ) : List FormEvent → World κ ρ σ → Option (World κ ρ σ)
  | [], w => some w
  | e :: rest, w => (emit e w).bind fun (_, w) => emitEach emit rest w

/-- Run a script. Whether it came to its end is given back. -/
def run (obey : Obey κ ρ σ) (emit : Emit κ ρ σ) :
    Script κ ρ → World κ ρ σ → Option (Bool × World κ ρ σ)
  | .done, w => some (true, w)
  | .panic, w => some (false, w)
  | .command c next, w =>
    (obey c w.state).bind fun (answer, events, state) =>
      (emitEach emit events { w with state := state }).bind fun w => run obey emit (next answer) w
  | .subscribe kind handler next, w =>
    let (id, bus) := w.bus.subscribe kind handler
    run obey emit (next id) { w with bus := bus }
  | .unsubscribe id next, w =>
    let (found, bus) := w.bus.unsubscribe id
    run obey emit (next found) { w with bus := bus }
  | .emit e next, w => (emit e w).bind fun (n, w) => run obey emit (next n) w

/-- Deliver an event to subscriptions. -/
def deliver (obey : Obey κ ρ σ) (emit : Emit κ ρ σ) (e : FormEvent) :
    List (Subscription (Handler κ ρ)) → World κ ρ σ → Option (Nat × World κ ρ σ)
  | [], w => some (0, w)
  | s :: rest, w =>
    (run obey emit (s.handler e) w).bind fun (clean, w) =>
      (deliver obey emit e rest w).map fun (n, w) => (if clean then n + 1 else n, w)

/-- Emit an event, with events inside events down to a depth. -/
def emit (obey : Obey κ ρ σ) (depth : Nat) (e : FormEvent) (w : World κ ρ σ) :
    Option (Nat × World κ ρ σ) :=
  match depth with
  | 0 => none
  | depth + 1 => deliver obey (emit obey depth) e (w.bus.listeners e) w

/-- Command the program around and dispatch the events. -/
def command (obey : Obey κ ρ σ) (depth : Nat) (c : κ) (w : World κ ρ σ) :
    Option (ρ × World κ ρ σ) :=
  (obey c w.state).bind fun (answer, events, state) =>
    (emitEach (emit obey depth) events { w with state := state }).map fun w => (answer, w)

end Dispatch

end LiveForm
