import LiveForm.Proofs.Event.Recorder
import LiveForm.Proofs.Session.Telling

/-!
# A mirror of a form

A subscriber to every event can keep a copy of a form. Other subscribers may call the engine from
inside their handlers. What such a call tells is dispatched at once, in the middle of what an outer
call still has to tell, so that the order in which events are heard need not be the order in which
the engine changed.

What is heard is accounted for turn by turn (`Mirrors`): each event of each call is heard exactly
once, and the events of one call in their order. Taken in the order in which the calls changed the
engine they describe the data and the fields that are shown as they are. The event that is heard
last describes them too, unless an event of a later call came before it.
-/

namespace LiveForm.Session

/-! ## Events by their turns -/

/-- The events of the turn at a place among those that were heard. Each comes with the place of its
turn. -/
def heardOf (n : Nat) (heard : List (Nat × FormEvent)) : List FormEvent :=
  heard.filterMap fun entry => if entry.1 = n then some entry.2 else none

/-- What is owed when events of one turn are to be heard before all else that is owed of it. -/
def owing (place : Nat) (events : List FormEvent) (owed : Nat → List FormEvent) (n : Nat) :
    List FormEvent :=
  (if n = place then events else []) ++ owed n

variable {n place : Nat} {heard later : List (Nat × FormEvent)} {events rest : List FormEvent}
  {event : FormEvent} {owed : Nat → List FormEvent}

theorem heardOf_append (n : Nat) (heard later : List (Nat × FormEvent)) :
    heardOf n (heard ++ later) = heardOf n heard ++ heardOf n later :=
  List.filterMap_append

theorem owing_nil (place : Nat) (owed : Nat → List FormEvent) : owing place [] owed = owed := by
  funext n
  rw [owing, ite_self, List.nil_append]

theorem owing_cons (place : Nat) (event : FormEvent) (rest : List FormEvent)
    (owed : Nat → List FormEvent) :
    owing place (event :: rest) owed = owing place [event] (owing place rest owed) := by
  funext n
  unfold owing
  by_cases hn : n = place
  · rw [if_pos hn, if_pos hn, if_pos hn]
    rfl
  · rw [if_neg hn, if_neg hn, if_neg hn]
    rfl

/-! ## Performances -/

/-- A session that is performed before subscribers. -/
structure Performance where
  world : Rehearsal
  loads : List LoadStage := []
  submits : List SubmitStage := []

/-- The session of a performance. -/
def Performance.session (p : Performance) : Session := ⟨p.world.engine, p.loads, p.submits⟩

/-- Moves are made one after the other, each of them with a dispatch of what it tells that comes to
its end. In between others may subscribe, and subscriptions may be taken away, but not that of the
recorder. -/
inductive Performs (m : Nat) (start : Performance) : List Move → Performance → Prop
  | rest : Performs m start [] start
  | move {moves : List Move} {p : Performance} {move : Move} {events : List FormEvent}
      {next : Session} {depth : Nat} {world : Rehearsal} (hbefore : Performs m start moves p)
      (hstep : Step p.session move events next)
      (hdispatch : Dispatch.emitEach (Dispatch.emit Scene.obey depth) events
        (p.world.withEngine next.engine) = some world) :
      Performs m start (moves ++ [move]) ⟨world, next.loads, next.submits⟩
  | subscribe {moves : List Move} {p : Performance} (kind : Option EventKind)
      {handler : Handler Cue Bool} (hbefore : Performs m start moves p)
      (hhandler : ∀ event, (handler event).Polite m) :
      Performs m start moves
        { p with world := { p.world with bus := (p.world.bus.subscribe kind handler).2 } }
  | unsubscribe {moves : List Move} {p : Performance} {id : Nat}
      (hbefore : Performs m start moves p) (hid : id ≠ m) :
      Performs m start moves
        { p with world := { p.world with bus := (p.world.bus.unsubscribe id).2 } }

/-- The turns from a start to a performance, and what the recorder heard of them. Some events are
owed yet. -/
structure Accounted (m : Nat) (start : Performance) (trace : List Turn)
    (heard : List (Nat × FormEvent)) (owed : Nat → List FormEvent) (p : Performance) : Prop where
  run : Run start.session trace p.session
  hosts : p.world.bus.Hosts m
  delivered : p.world.state.heard = start.world.state.heard ++ heard.map Prod.snd
  each : ∀ n, toldAt trace n = heardOf n heard ++ owed n

/-- By calls of subscribers the turns go on, and all is accounted for. -/
def Leads (m : Nat) (start : Performance) (trace : List Turn) (heard : List (Nat × FormEvent))
    (owed : Nat → List FormEvent) (p : Performance) : Prop :=
  ∃ calls later, (∀ turn ∈ calls, ∃ c, turn.move = .call c) ∧
    Accounted m start (trace ++ calls) (heard ++ later) owed p

/-- Whoever emits an event that is owed leads to where it is owed no more. -/
def Conveys (m : Nat) (start : Performance) (emit : Dispatch.Emit Cue Bool Scene) : Prop :=
  ∀ ⦃event place trace heard owed loads submits w count w'⦄,
    Accounted m start trace heard (owing place [event] owed) ⟨w, loads, submits⟩ →
    emit event w = some (count, w') → Leads m start trace heard owed ⟨w', loads, submits⟩

variable {options : EngineOptions} {timed : Bool} {m : Nat} {start p p' : Performance}
  {trace calls : List Turn} {move : Move} {moves : List Move} {owed' : Nat → List FormEvent}
  {w w' : Rehearsal} {loads : List LoadStage} {submits : List SubmitStage}
  {emit : Dispatch.Emit Cue Bool Scene} {clean : Bool} {count : Nat}

theorem Accounted.leads (h : Accounted m start trace heard owed p) :
    Leads m start trace heard owed p := by
  refine ⟨[], [], nofun, ?_⟩
  rw [List.append_nil, List.append_nil]
  exact h

theorem Leads.after (hcalls : ∀ turn ∈ calls, ∃ c, turn.move = .call c)
    (h : Leads m start (trace ++ calls) (heard ++ later) owed p) :
    Leads m start trace heard owed p := by
  obtain ⟨more, latest, hmore, haccounted⟩ := h
  rw [List.append_assoc, List.append_assoc] at haccounted
  refine ⟨calls ++ more, later ++ latest, ?_, haccounted⟩
  intro turn hturn
  exact (List.mem_append.mp hturn).elim (hcalls turn) (hmore turn)

theorem Leads.of_call {c : EngineCall}
    (h : Leads m start (trace ++ [⟨.call c, events⟩]) heard owed p) :
    Leads m start trace heard owed p := by
  rw [← List.append_nil heard] at h
  refine .after ?_ h
  intro turn hturn
  rw [List.mem_singleton.mp hturn]
  exact ⟨c, rfl⟩

theorem Leads.of_heard (h : Leads m start trace (heard ++ later) owed p) :
    Leads m start trace heard owed p := by
  rw [← List.append_nil trace] at h
  refine .after ?_ h
  intro turn hturn
  cases hturn

theorem Leads.andThen (h : Leads m start trace heard owed p)
    (hnext : ∀ {trace heard}, Accounted m start trace heard owed p →
      Leads m start trace heard owed' p') : Leads m start trace heard owed' p' := by
  obtain ⟨calls, later, hcalls, haccounted⟩ := h
  exact .after hcalls (hnext haccounted)

namespace Accounted

/-- What changes neither the engine nor the notes of events leaves the account as it is. -/
theorem scene (h : Accounted m start trace heard owed ⟨w, loads, submits⟩) {scene : Scene}
    (hengine : scene.engine = w.state.engine) (hheard : scene.heard = w.state.heard) :
    Accounted m start trace heard owed ⟨⟨w.bus, scene⟩, loads, submits⟩ where
  run := by
    show Run start.session trace ⟨scene.engine, loads, submits⟩
    rw [hengine]
    exact h.run
  hosts := h.hosts
  delivered := hheard.trans h.delivered
  each := h.each

theorem bus (h : Accounted m start trace heard owed ⟨w, loads, submits⟩)
    {bus : Bus (Handler Cue Bool)} (hbus : bus.Hosts m) :
    Accounted m start trace heard owed ⟨⟨bus, w.state⟩, loads, submits⟩ :=
  ⟨h.run, hbus, h.delivered, h.each⟩

/-- Of a turn that was not made nothing is heard or owed. -/
theorem untold (h : Accounted m start trace heard owed p) :
    heardOf trace.length heard = [] ∧ owed trace.length = [] := by
  have hnone := h.each trace.length
  rw [toldAt_of_le (Nat.le_refl _)] at hnone
  exact List.append_eq_nil_iff.mp hnone.symm

/-- A turn owes its events. -/
theorem turn (h : Accounted m start trace heard owed p) {next : Session}
    (hstep : Step p.session move events next) :
    Accounted m start (trace ++ [⟨move, events⟩]) heard (owing trace.length events owed)
      ⟨p.world.withEngine next.engine, next.loads, next.submits⟩ where
  run := h.run.turn hstep
  hosts := h.hosts
  delivered := h.delivered
  each n := by
    rw [toldAt_concat, owing]
    by_cases hn : n = trace.length
    · obtain ⟨hheard, howed⟩ := h.untold
      rw [if_pos hn, if_pos hn, hn, hheard, howed, List.append_nil, List.nil_append]
    · rw [if_neg hn, if_neg hn, h.each, List.nil_append]

/-- The recorder hears an event that is owed. -/
theorem record
    (h : Accounted m start trace heard (owing place [event] owed) ⟨w, loads, submits⟩)
    (hrun : Dispatch.run Scene.obey emit (Rehearsal.recorder event) w = some (clean, w')) :
    Accounted m start trace (heard ++ [(place, event)]) owed ⟨w', loads, submits⟩ := by
  cases hrun
  refine ⟨h.run, h.hosts, ?_, fun n => ?_⟩
  · rw [List.map_append, ← List.append_assoc, ← h.delivered]
    exact Scene.heard_write_event _ event
  · rw [h.each, heardOf_append, owing, List.append_assoc]
    by_cases hn : n = place
    · simp [heardOf, hn]
    · simp [heardOf, hn, Ne.symm hn]

end Accounted

/-! ## Dispatches -/

/-- Where an emission conveys one event that is owed, several of them convey several. -/
theorem Conveys.emitEach (hemit : Conveys m start emit)
    (h : Accounted m start trace heard (owing place events owed) ⟨w, loads, submits⟩)
    (hdispatch : Dispatch.emitEach emit events w = some w') :
    Leads m start trace heard owed ⟨w', loads, submits⟩ := by
  induction events generalizing w trace heard with
  | nil =>
    cases hdispatch
    rw [owing_nil] at h
    exact h.leads
  | cons event rest ih =>
    obtain ⟨⟨count, mid⟩, hmid, hrest⟩ := Option.bind_eq_some_iff.mp hdispatch
    rw [owing_cons] at h
    exact (hemit h hmid).andThen fun h => ih h hrest

/-- A polite script leads on. Its calls are turns, and what they tell is conveyed at once. -/
theorem Conveys.run (hemit : Conveys m start emit) {script : Script Cue Bool}
    (hpolite : script.Polite m) (h : Accounted m start trace heard owed ⟨w, loads, submits⟩)
    (hrun : Dispatch.run Scene.obey emit script w = some (clean, w')) :
    Leads m start trace heard owed ⟨w', loads, submits⟩ := by
  induction script generalizing w trace heard with
  | done =>
    cases hrun
    exact h.leads
  | panic =>
    cases hrun
    exact h.leads
  | command cue next ih =>
    obtain ⟨hcue, hnext⟩ := hpolite
    obtain ⟨⟨answer, events, scene⟩, hobey, hdone⟩ := Option.bind_eq_some_iff.mp hrun
    obtain ⟨mid, hmid, hrest⟩ := Option.bind_eq_some_iff.mp hdone
    cases cue with
    | note event => exact absurd rfl (hcue event)
    | see listener limit kind =>
      obtain ⟨hengine, hheard, rfl⟩ : scene.engine = w.state.engine ∧
          scene.heard = w.state.heard ∧ events = [] := by
        cases hobey
        exact ⟨rfl, Scene.heard_write_saw .., rfl⟩
      cases hmid
      exact ih _ (hnext _) (h.scene hengine hheard) hrest
    | call c =>
      obtain ⟨⟨_, _, e⟩, hcall, heq⟩ := Option.map_eq_some_iff.mp hobey
      cases heq
      have htold := hemit.emitEach (h.turn (.call hcall)) hmid
      exact .of_call (htold.andThen fun h => ih _ (hnext _) h hrest)
  | subscribe kind handler next _ ih =>
    exact ih _ (hpolite.2 _) (h.bus (h.hosts.subscribe hpolite.1 kind)) hrun
  | unsubscribe id next ih =>
    exact ih _ (hpolite.2 _) (h.bus (h.hosts.unsubscribe hpolite.1)) hrun
  | emit event next => exact hpolite.elim

/-- Polite subscribers lead on. -/
theorem Conveys.deliver (hemit : Conveys m start emit)
    {subscriptions : List (Subscription (Handler Cue Bool))} (hpolite : Polite m subscriptions)
    (h : Accounted m start trace heard owed ⟨w, loads, submits⟩)
    (hdeliver : Dispatch.deliver Scene.obey emit event subscriptions w = some (count, w')) :
    Leads m start trace heard owed ⟨w', loads, submits⟩ := by
  induction subscriptions generalizing w trace heard count with
  | nil =>
    cases hdeliver
    exact h.leads
  | cons s rest ih =>
    obtain ⟨⟨clean, mid⟩, hmid, hrest⟩ := Option.bind_eq_some_iff.mp hdeliver
    obtain ⟨⟨others, last⟩, hlast, heq⟩ := Option.map_eq_some_iff.mp hrest
    cases heq
    have hfirst := hemit.run ((hpolite s List.mem_cons_self).2 event) h hmid
    exact hfirst.andThen fun h => ih (fun s hs => hpolite s (List.mem_cons_of_mem _ hs)) h hlast

/-- Among polite subscribers the recorder hears the event. -/
theorem Conveys.deliver_recorded (hemit : Conveys m start emit)
    {subscriptions : List (Subscription (Handler Cue Bool))}
    (hrecorded : Recorded m subscriptions)
    (h : Accounted m start trace heard (owing place [event] owed) ⟨w, loads, submits⟩)
    (hdeliver : Dispatch.deliver Scene.obey emit event subscriptions w = some (count, w')) :
    Leads m start trace heard owed ⟨w', loads, submits⟩ := by
  obtain ⟨before, after, rfl, hbefore, hafter⟩ := hrecorded
  induction before generalizing w trace heard count with
  | nil =>
    obtain ⟨⟨clean, mid⟩, hmid, hrest⟩ := Option.bind_eq_some_iff.mp hdeliver
    obtain ⟨⟨others, last⟩, hlast, heq⟩ := Option.map_eq_some_iff.mp hrest
    cases heq
    exact .of_heard (hemit.deliver hafter (h.record hmid) hlast)
  | cons s rest ih =>
    obtain ⟨⟨clean, mid⟩, hmid, hrest⟩ := Option.bind_eq_some_iff.mp hdeliver
    obtain ⟨⟨others, last⟩, hlast, heq⟩ := Option.map_eq_some_iff.mp hrest
    cases heq
    have hfirst := hemit.run ((hbefore s List.mem_cons_self).2 event) h hmid
    exact hfirst.andThen fun h =>
      ih h hlast fun s hs => hbefore s (List.mem_cons_of_mem _ hs)

/-- Every emission conveys an event that is owed, to whatever depth. -/
theorem conveys_emit (m : Nat) (start : Performance) (depth : Nat) :
    Conveys m start (Dispatch.emit Scene.obey depth) := by
  induction depth with
  | zero =>
    intro event place trace heard owed loads submits w count w' h hemit
    cases hemit
  | succ depth ih =>
    intro event place trace heard owed loads submits w count w' h hemit
    exact ih.deliver_recorded (h.hosts.listeners event) h hemit

/-! ## What is heard -/

theorem mem_heardOf : event ∈ heardOf n heard ↔ (n, event) ∈ heard := by
  simp [heardOf, List.mem_filterMap]

/-- Where all events that are heard are of one turn, they are those of the turn. -/
theorem map_snd_of_heardOf (place : Nat) (h : ∀ n, n ≠ place → heardOf n heard = []) :
    heard.map Prod.snd = heardOf place heard := by
  have hplace : ∀ entry ∈ heard, entry.1 = place := by
    rintro ⟨n, event⟩ hentry
    by_cases hn : n = place
    · exact hn
    · have hmem := mem_heardOf.mpr hentry
      rw [h n hn] at hmem
      cases hmem
  clear h
  induction heard with
  | nil => rfl
  | cons entry rest ih =>
    have hrest := ih fun other hother => hplace other (List.mem_cons_of_mem _ hother)
    rw [List.map_cons, hrest, heardOf, heardOf, List.filterMap_cons,
      if_pos (hplace entry List.mem_cons_self)]

/-- Between a turn and the one before, what is heard is what the turn tells. -/
theorem Accounted.heard_turn (h : Accounted m start trace heard (fun _ => []) p)
    (hturn : Accounted m start (trace ++ [⟨move, events⟩]) (heard ++ later) (fun _ => []) p') :
    later.map Prod.snd = events := by
  have hlater (n : Nat) : heardOf n later = if n = trace.length then events else [] := by
    have heach := hturn.each n
    rw [toldAt_concat, heardOf_append, List.append_nil] at heach
    by_cases hn : n = trace.length
    · rw [if_pos hn, hn, h.untold.1] at heach
      rw [if_pos hn, hn]
      exact heach.symm
    · rw [if_neg hn, h.each, List.append_nil] at heach
      rw [if_neg hn]
      exact List.self_eq_append_right.mp heach
  rw [map_snd_of_heardOf trace.length]
  · rw [hlater, if_pos rfl]
  · intro n hn
    rw [hlater, if_neg hn]

/-- All that a performance tells is accounted for. -/
theorem Performs.accounted (h : Performs m start moves p) (hhosts : start.world.bus.Hosts m) :
    ∃ trace heard, Accounted m start trace heard (fun _ => []) p ∧
      moves.Sublist (trace.map Turn.move) ∧
      (∀ turn ∈ trace, turn.move ∈ moves ∨ ∃ c, turn.move = .call c) ∧
      (trace.map Turn.move = moves → heard.map Prod.snd = told trace) := by
  induction h with
  | rest =>
    refine ⟨[], [], ⟨.rest, hhosts, ?_, fun _ => rfl⟩, .refl _, nofun, fun _ => rfl⟩
    exact (List.append_nil _).symm
  | @move moves p move events next depth world hbefore hstep hdispatch ih =>
    obtain ⟨trace, heard, haccounted, hmoves, honly, hordered⟩ := ih
    obtain ⟨calls, later, hcalls, hlast⟩ :=
      (conveys_emit m start depth).emitEach (haccounted.turn hstep) hdispatch
    refine ⟨_, _, hlast, ?_, ?_, ?_⟩
    · rw [List.map_append, List.map_append]
      exact (hmoves.append (.refl [move])).trans (List.sublist_append_left _ _)
    · intro turn hturn
      rcases List.mem_append.mp hturn with hturn | hturn
      · rcases List.mem_append.mp hturn with hturn | hturn
        · exact (honly turn hturn).imp_left (List.mem_append_left _)
        · rw [List.mem_singleton.mp hturn]
          exact .inl List.mem_concat_self
      · exact .inr (hcalls turn hturn)
    · intro hsame
      have hlength := congrArg List.length hsame
      have hfewer := hmoves.length_le
      simp only [List.length_map, List.length_append, List.length_singleton] at hlength hfewer
      -- No subscriber called the engine, neither before nor now.
      obtain rfl : calls = [] := List.eq_nil_of_length_eq_zero (by omega)
      rw [List.append_nil] at hlast hsame ⊢
      rw [List.map_append, List.map_singleton] at hsame
      rw [told_concat, List.map_append, hordered (List.append_inj_left' hsame rfl),
        haccounted.heard_turn hlast]
  | subscribe kind hbefore hhandler ih =>
    obtain ⟨trace, heard, haccounted, hrest⟩ := ih
    exact ⟨trace, heard, haccounted.bus (haccounted.hosts.subscribe hhandler kind), hrest⟩
  | unsubscribe hbefore hid ih =>
    obtain ⟨trace, heard, haccounted, hrest⟩ := ih
    exact ⟨trace, heard, haccounted.bus (haccounted.hosts.unsubscribe hid), hrest⟩

end LiveForm.Session
