import LiveForm.Rehearsal.Scene

/-!
# The recorder and those beside it

The recorder is a subscriber to every event that does nothing but note it. Others may be subscribed
before it and behind it. They are `Polite`: they may call the engine whenever they get an event, but
leave the notes to the recorder and its subscription as it is. As long as all are, the recorder gets
every event that is emitted (`Bus.Hosts.listeners`).
-/

namespace LiveForm

/-- The events that were noted, in order. -/
def Scene.heard (s : Scene) : List FormEvent :=
  s.notes.reverse.filterMap fun note =>
    match note with
    | .event event => some event
    | .saw .. => none

theorem Scene.heard_write_event (s : Scene) (event : FormEvent) :
    (s.write (.event event)).heard = s.heard ++ [event] := by
  rw [heard, write, List.reverse_cons, List.filterMap_append]
  rfl

theorem Scene.heard_write_saw (s : Scene) (listener : Nat) (kind : EventKind) (data : Json)
    (status : FormStatus) : (s.write (.saw listener kind data status)).heard = s.heard := by
  rw [heard, write, List.reverse_cons, List.filterMap_append]
  exact List.append_nil _

/-- A script of a subscriber who may look at the engine and call it, subscribe others like it, and
take away any subscription but one. It notes no event and emits none of its own. -/
def Script.Polite (m : Nat) : Script Cue Bool → Prop
  | .done | .panic => True
  | .command cue next => (∀ event, cue ≠ .note event) ∧ ∀ answer, (next answer).Polite m
  | .subscribe _ handler next =>
    (∀ event, (handler event).Polite m) ∧ ∀ id, (next id).Polite m
  | .unsubscribe id next => id ≠ m ∧ ∀ found, (next found).Polite m
  | .emit _ _ => False

/-- Subscriptions of others than the recorder, who are polite. -/
def Polite (m : Nat) (subscriptions : List (Subscription (Handler Cue Bool))) : Prop :=
  ∀ s ∈ subscriptions, s.id ≠ m ∧ ∀ event, (s.handler event).Polite m

/-- The recorder is subscribed once, to every event, among others who are polite. -/
def Recorded (m : Nat) (subscriptions : List (Subscription (Handler Cue Bool))) : Prop :=
  ∃ before after, subscriptions = before ++ ⟨m, none, Rehearsal.recorder⟩ :: after ∧
    Polite m before ∧ Polite m after

/-- The recorder is subscribed, and its number is not given again. -/
structure Bus.Hosts (m : Nat) (bus : Bus (Handler Cue Bool)) : Prop where
  recorded : Recorded m bus.subscriptions
  used : m < bus.nextId

/-! ## What subscribing keeps -/

section

variable {m : Nat} {subscriptions : List (Subscription (Handler Cue Bool))}
  {bus : Bus (Handler Cue Bool)}

theorem Polite.filter (h : Polite m subscriptions) (keep : Subscription (Handler Cue Bool) → Bool) :
    Polite m (subscriptions.filter keep) :=
  fun s hs => h s (List.mem_filter.mp hs).1

/-- A selection that keeps the recorder leaves it among polite others. -/
theorem Recorded.filter (h : Recorded m subscriptions)
    {keep : Subscription (Handler Cue Bool) → Bool}
    (hkeep : keep ⟨m, none, Rehearsal.recorder⟩ = true) :
    Recorded m (subscriptions.filter keep) := by
  obtain ⟨before, after, rfl, hbefore, hafter⟩ := h
  refine ⟨before.filter keep, after.filter keep, ?_, hbefore.filter keep, hafter.filter keep⟩
  rw [List.filter_append, List.filter_cons, if_pos hkeep]

theorem Bus.Hosts.subscribe (h : bus.Hosts m) {handler : Handler Cue Bool}
    (hhandler : ∀ event, (handler event).Polite m) (kind : Option EventKind) :
    (bus.subscribe kind handler).2.Hosts m := by
  obtain ⟨⟨before, after, hsubscriptions, hbefore, hafter⟩, hused⟩ := h
  refine ⟨⟨before, after ++ [⟨bus.nextId, kind, handler⟩], ?_, hbefore, ?_⟩,
    Nat.lt_succ_of_lt hused⟩
  · show bus.subscriptions ++ _ = _
    rw [hsubscriptions, List.append_assoc, List.cons_append]
  · intro s hs
    rcases List.mem_append.mp hs with hs | hs
    · exact hafter s hs
    · rw [List.mem_singleton.mp hs]
      exact ⟨Nat.ne_of_gt hused, hhandler⟩

theorem Bus.Hosts.unsubscribe (h : bus.Hosts m) {id : Nat} (hid : id ≠ m) :
    (bus.unsubscribe id).2.Hosts m :=
  ⟨h.recorded.filter (by simpa using Ne.symm hid), h.used⟩

/-- The recorder listens to every event. -/
theorem Bus.Hosts.listeners (h : bus.Hosts m) (event : FormEvent) :
    Recorded m (bus.listeners event) :=
  h.recorded.filter rfl

end

end LiveForm
