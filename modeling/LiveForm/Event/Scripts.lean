import LiveForm.Event.Bus

/-!
# Subscribers that keep a log

`LoggedBus` is a bus whose subscribers write into a log that they share. Besides logging an event, a
subscriber may break off, take a subscription away, make one, or emit an event of its own. It knows
subscriptions by their place in the order in which they were made.
-/

namespace LiveForm

/-- An entry of a log: an event that a subscriber got, or what came of its reaction. -/
inductive LogEntry where
  | got (subscriber : Nat) (event : FormEvent)
  | unsubscribed (subscriber : Nat) (found : Option Bool)
  | emitted (subscriber : Nat) (count : Nat)

def LogEntry.toJson : LogEntry → Json
  | got n e => .obj [("event", e.toJson), ("sub", .ofNat n)]
  | unsubscribed n found => .obj [("off", (found.map Json.bool).getD .null), ("sub", .ofNat n)]
  | emitted n count => .obj [("emitted", .ofNat count), ("sub", .ofNat n)]

/-- What a subscriber does after it has logged an event. -/
inductive Reaction where
  | log
  | panic
  /-- Subscribe another one, which only logs. -/
  | add
  /-- Take a subscription away, then emit an event of another kind. -/
  | act (unsubscribe : Option Nat) (emit : Option FormEvent)

/-- A log, and the numbers of the subscriptions in the order in which they were made. -/
structure EventLog where
  entries : List LogEntry := []
  made : List Nat := []

/-- What subscribers ask of the log. -/
inductive LogCommand where
  | write (entry : LogEntry)
  /-- The number of a subscription, by its place. -/
  | lookup (place : Nat)
  /-- How many subscriptions were made. -/
  | howMany
  /-- A subscription was made. -/
  | record (id : Nat)

/-- How the log obeys. The answer is a number, where there is one to give. -/
def EventLog.obey : Obey LogCommand (Option Nat) EventLog := fun c log =>
  match c with
  | .write entry => some (none, [], { log with entries := log.entries ++ [entry] })
  | .lookup place => some (log.made[place]?, [], log)
  | .howMany => some (some log.made.length, [], log)
  | .record id => some (none, [], { log with made := log.made ++ [id] })

/-- A bus whose subscribers share a log. -/
abbrev LoggedBus := World LogCommand (Option Nat) EventLog

namespace LoggedBus

/-- Write an entry, then go on. -/
def write (entry : LogEntry) (next : Script LogCommand (Option Nat)) :
    Script LogCommand (Option Nat) :=
  .command (.write entry) fun _ => next

/-- Emit an event unless it is of the kind that is being handled. -/
def answer (n : Nat) (handled : FormEvent) : Option FormEvent → Script LogCommand (Option Nat)
  | some e =>
    if e.kind = handled.kind then .done
    else .emit e fun count => write (.emitted n count) .done
  | none => .done

/-- The handler of a subscriber that only logs. -/
def logger (n : Nat) : Handler LogCommand (Option Nat) := fun e => write (.got n e) .done

/-- The handler of a subscriber. -/
def handler (n : Nat) (reaction : Reaction) : Handler LogCommand (Option Nat) := fun e =>
  write (.got n e) <|
    match reaction with
    | .log => .done
    | .panic => .panic
    | .add =>
      .command .howMany fun count =>
        .subscribe none (logger (count.getD 0)) fun id => .command (.record id) fun _ => .done
    | .act none emit => answer n e emit
    | .act (some place) emit =>
      .command (.lookup place) fun id =>
        match id with
        | some id =>
          .unsubscribe id fun found => write (.unsubscribed n (some found)) (answer n e emit)
        | none => write (.unsubscribed n none) (answer n e emit)

/-- Add a subscriber. Its place is given back. -/
def subscribe (w : LoggedBus) (kind : Option EventKind) (reaction : Reaction) : Nat × LoggedBus :=
  let n := w.state.made.length
  let (id, bus) := w.bus.subscribe kind (handler n reaction)
  (n, ⟨bus, { w.state with made := w.state.made ++ [id] }⟩)

/-- Remove the subscriber at a place, if there was ever one. -/
def unsubscribe (w : LoggedBus) (place : Nat) : Option Bool × LoggedBus :=
  match w.state.made[place]? with
  | some id =>
    let (found, bus) := w.bus.unsubscribe id
    (some found, { w with bus := bus })
  | none => (none, w)

/-- Emit an event. -/
def emit (w : LoggedBus) (depth : Nat) (e : FormEvent) : Option (Nat × LoggedBus) :=
  Dispatch.emit EventLog.obey depth e w

/-- Emit events, one after the other. -/
def emitEach (w : LoggedBus) (depth : Nat) (events : List FormEvent) : Option LoggedBus :=
  Dispatch.emitEach (Dispatch.emit EventLog.obey depth) events w

/-- Take the entries of the log. -/
def drain (w : LoggedBus) : List LogEntry × LoggedBus :=
  (w.state.entries, { w with state := { w.state with entries := [] } })

end LoggedBus

end LiveForm
