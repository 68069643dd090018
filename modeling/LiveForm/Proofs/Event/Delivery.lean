import LiveForm.Event.Scripts
import Mathlib.Logic.ExistsUnique

/-!
# Who is called by a dispatch

A handler may subscribe others, take subscriptions away, its own among them, emit further events and
break off. What the handlers of one emission do, down to the emissions inside, is told by a record
(`Calls`): which subscriptions are called one after the other, what each handler does (`Deeds`), and
whether it comes to its end.

That a record tells what happens in a world is a relation (`Delivers`) that leaves open whom an
emission calls and what number it gives back. A record is `Orderly` if every emission in it calls
those who, by what was recorded before, are subscribed when it begins, each once and in their order,
and gives back the number of those that came to their end. The dispatch comes to its end exactly as
the orderly records tell (`Dispatch.emit_delivers`).
-/

namespace LiveForm

/-! ## Records -/

mutual

/-- What a handler does to the subscriptions, and what is emitted on its behalf, in order. -/
inductive Deeds (η : Type) where
  | nil
  | subscribed (s : Subscription η) (rest : Deeds η)
  | unsubscribed (id : Nat) (found : Bool) (rest : Deeds η)
  /-- An event was emitted. The calls it led to, and the number that was given back for it. -/
  | emitted (event : FormEvent) (calls : Calls η) (count : Nat) (rest : Deeds η)

/-- The calls that an emission leads to, one after the other. Each has the deeds of the handler and
whether it came to its end. -/
inductive Calls (η : Type) where
  | nil
  | call (s : Subscription η) (deeds : Deeds η) (clean : Bool) (rest : Calls η)

end

section

variable {η : Type}

namespace Calls

/-- Who is called. Calls that other emissions lead to meanwhile are not among them. -/
def callees : Calls η → List (Subscription η)
  | nil => []
  | call s _ _ rest => s :: rest.callees

/-- The number of calls that came to their end. -/
def cleanCount : Calls η → Nat
  | nil => 0
  | call _ _ clean rest => if clean then rest.cleanCount + 1 else rest.cleanCount

end Calls

mutual

/-- The subscriptions after deeds. -/
def Deeds.after : Deeds η → Bus η → Bus η
  | .nil, bus => bus
  | .subscribed s rest, bus => rest.after (bus.subscribe s.kind s.handler).2
  | .unsubscribed id _ rest, bus => rest.after (bus.unsubscribe id).2
  | .emitted _ calls _ rest, bus => rest.after (calls.after bus)

/-- The subscriptions after calls. -/
def Calls.after : Calls η → Bus η → Bus η
  | .nil, bus => bus
  | .call _ deeds _ rest, bus => rest.after (deeds.after bus)

end

mutual

/-- Each emission calls exactly those who are subscribed for it when it begins, and counts the calls
that come to their end. -/
def Deeds.Orderly : Deeds η → Bus η → Prop
  | .nil, _ => True
  | .subscribed s rest, bus => rest.Orderly (bus.subscribe s.kind s.handler).2
  | .unsubscribed id _ rest, bus => rest.Orderly (bus.unsubscribe id).2
  | .emitted e calls count rest, bus =>
    calls.callees = bus.listeners e ∧ count = calls.cleanCount ∧ calls.Orderly bus ∧
      rest.Orderly (calls.after bus)

/-- The emissions inside the calls are orderly. -/
def Calls.Orderly : Calls η → Bus η → Prop
  | .nil, _ => True
  | .call _ deeds _ rest, bus => deeds.Orderly bus ∧ rest.Orderly (deeds.after bus)

end

end

variable {κ ρ σ : Type} {obey : Obey κ ρ σ}

namespace Script

/-- A script with events to emit before it. -/
def emitting (events : List FormEvent) (script : Script κ ρ) : Script κ ρ :=
  events.foldr (fun e script => .emit e fun _ => script) script

/-- A script that comes to its end where the other breaks off. -/
def calm : Script κ ρ → Script κ ρ
  | .done | .panic => .done
  | .command c next => .command c fun answer => (next answer).calm
  | .subscribe kind handler next => .subscribe kind handler fun id => (next id).calm
  | .unsubscribe id next => .unsubscribe id fun found => (next found).calm
  | .emit e next => .emit e fun n => (next n).calm

theorem calm_emitting (events : List FormEvent) (script : Script κ ρ) :
    (emitting events script).calm = emitting events script.calm := by
  induction events with
  | nil => rfl
  | cons e rest ih =>
    show Script.emit e (fun _ => (emitting rest script).calm) = _
    rw [ih]
    rfl

end Script

/-- The calls in which the callees of a choice do not break off. -/
def Calls.calm (which : Subscription (Handler κ ρ) → Bool) :
    Calls (Handler κ ρ) → Calls (Handler κ ρ)
  | .nil => .nil
  | .call s deeds clean rest =>
    bif which s then
      .call { s with handler := fun e => (s.handler e).calm } deeds true (rest.calm which)
    else .call s deeds clean (rest.calm which)

/-! ## What happens is as recorded -/

mutual

/-- A script is run with some deeds. Whom an emission calls and what number it gives back is left
open. -/
inductive Runs (obey : Obey κ ρ σ) :
    Script κ ρ → World κ ρ σ → Deeds (Handler κ ρ) → Bool → World κ ρ σ → Prop
  | done {w : World κ ρ σ} : Runs obey .done w .nil true w
  | panic {w : World κ ρ σ} : Runs obey .panic w .nil false w
  | command {c : κ} {next : ρ → Script κ ρ} {w w' : World κ ρ σ} {answer : ρ}
      {events : List FormEvent} {state : σ} {deeds : Deeds (Handler κ ρ)} {clean : Bool}
      (hobey : obey c w.state = some (answer, events, state))
      (hrest : Runs obey (.emitting events (next answer)) { w with state := state } deeds clean w') :
      Runs obey (.command c next) w deeds clean w'
  | subscribe {kind : Option EventKind} {handler : Handler κ ρ} {next : Nat → Script κ ρ}
      {w w' : World κ ρ σ} {deeds : Deeds (Handler κ ρ)} {clean : Bool}
      (hrest : Runs obey (next (w.bus.subscribe kind handler).1)
        { w with bus := (w.bus.subscribe kind handler).2 } deeds clean w') :
      Runs obey (.subscribe kind handler next) w
        (.subscribed ⟨(w.bus.subscribe kind handler).1, kind, handler⟩ deeds) clean w'
  | unsubscribe {id : Nat} {next : Bool → Script κ ρ} {w w' : World κ ρ σ}
      {deeds : Deeds (Handler κ ρ)} {clean : Bool}
      (hrest : Runs obey (next (w.bus.unsubscribe id).1)
        { w with bus := (w.bus.unsubscribe id).2 } deeds clean w') :
      Runs obey (.unsubscribe id next) w
        (.unsubscribed id (w.bus.unsubscribe id).1 deeds) clean w'
  | emit {e : FormEvent} {next : Nat → Script κ ρ} {w mid w' : World κ ρ σ}
      {calls : Calls (Handler κ ρ)} {count : Nat} {deeds : Deeds (Handler κ ρ)} {clean : Bool}
      (hcalls : Delivers obey e w calls mid) (hrest : Runs obey (next count) mid deeds clean w') :
      Runs obey (.emit e next) w (.emitted e calls count deeds) clean w'

/-- The handlers of some callees are run for an event, one after the other. Each begins in the world
that the one before it leaves, whether that came to its end or not. -/
inductive Delivers (obey : Obey κ ρ σ) :
    FormEvent → World κ ρ σ → Calls (Handler κ ρ) → World κ ρ σ → Prop
  | nil {e : FormEvent} {w : World κ ρ σ} : Delivers obey e w .nil w
  | call {e : FormEvent} {s : Subscription (Handler κ ρ)} {w mid w' : World κ ρ σ}
      {deeds : Deeds (Handler κ ρ)} {clean : Bool} {calls : Calls (Handler κ ρ)}
      (hrun : Runs obey (s.handler e) w deeds clean mid) (hrest : Delivers obey e mid calls w') :
      Delivers obey e w (.call s deeds clean calls) w'

end

/-- An event is emitted: exactly those are called who are subscribed for it at the beginning, once
and in their order, and so in every emission inside. The number of those that come to their end is
given back. -/
structure Delivery (obey : Obey κ ρ σ) (e : FormEvent) (w : World κ ρ σ)
    (calls : Calls (Handler κ ρ)) (n : Nat) (w' : World κ ρ σ) : Prop where
  delivers : Delivers obey e w calls w'
  callees : calls.callees = w.bus.listeners e
  orderly : calls.Orderly w.bus
  count : n = calls.cleanCount

mutual

/-- The record has all that is done to the subscriptions. -/
theorem Runs.after {script : Script κ ρ} {w w' : World κ ρ σ} {deeds : Deeds (Handler κ ρ)}
    {clean : Bool} (h : Runs obey script w deeds clean w') : deeds.after w.bus = w'.bus := by
  match h with
  | .done | .panic => rfl
  | .command _ hrest | .subscribe hrest | .unsubscribe hrest => exact hrest.after
  | .emit hcalls hrest =>
    show Deeds.after _ (Calls.after _ _) = _
    rw [hcalls.after, hrest.after]

theorem Delivers.after {e : FormEvent} {w w' : World κ ρ σ} {calls : Calls (Handler κ ρ)}
    (h : Delivers obey e w calls w') : calls.after w.bus = w'.bus := by
  match h with
  | .nil => rfl
  | .call hrun hrest =>
    show Calls.after _ (Deeds.after _ _) = _
    rw [hrun.after, hrest.after]

end

mutual

/-- A script is run with orderly deeds in one way only. -/
theorem Runs.unique {script : Script κ ρ} {w w' last : World κ ρ σ}
    {deeds others : Deeds (Handler κ ρ)} {clean also : Bool}
    (h : Runs obey script w deeds clean w') (horderly : deeds.Orderly w.bus)
    (hothers : Runs obey script w others also last) (hagain : others.Orderly w.bus) :
    deeds = others ∧ clean = also ∧ w' = last := by
  match h, hothers with
  | .done, .done | .panic, .panic => exact ⟨rfl, rfl, rfl⟩
  | .command hobey hrest, .command hsame hother =>
    rw [hobey] at hsame
    cases hsame
    exact hrest.unique horderly hother hagain
  | .subscribe hrest, .subscribe hother =>
    obtain ⟨rfl, hclean, hlast⟩ := hrest.unique horderly hother hagain
    exact ⟨rfl, hclean, hlast⟩
  | .unsubscribe hrest, .unsubscribe hother =>
    obtain ⟨rfl, hclean, hlast⟩ := hrest.unique horderly hother hagain
    exact ⟨rfl, hclean, hlast⟩
  | .emit hcalls hrest, .emit hmore hother =>
    obtain ⟨hcallees, hcount, hinside, hlater⟩ := horderly
    obtain ⟨hsame, hnumber, hwithin, hafter⟩ := hagain
    -- The calls agree first, and with them the number that the script goes on with.
    obtain ⟨rfl, rfl⟩ := hcalls.unique hinside hmore hwithin (hcallees.trans hsame.symm)
    obtain rfl := hcount.trans hnumber.symm
    rw [hcalls.after] at hlater hafter
    obtain ⟨rfl, hclean, hlast⟩ := hrest.unique hlater hother hafter
    exact ⟨rfl, hclean, hlast⟩

/-- Callees are run one after the other in one way only. -/
theorem Delivers.unique {e : FormEvent} {w w' last : World κ ρ σ}
    {calls others : Calls (Handler κ ρ)} (h : Delivers obey e w calls w')
    (horderly : calls.Orderly w.bus) (hothers : Delivers obey e w others last)
    (hagain : others.Orderly w.bus) (hsame : calls.callees = others.callees) :
    calls = others ∧ w' = last := by
  match h, hothers with
  | .nil, .nil => exact ⟨rfl, rfl⟩
  | .call hrun hrest, .call hrerun hother =>
    obtain ⟨rfl, hcallees⟩ := List.cons.inj hsame
    obtain ⟨hdeeds, hlater⟩ := horderly
    obtain ⟨hothers, hafter⟩ := hagain
    obtain ⟨rfl, rfl, rfl⟩ := hrun.unique hdeeds hrerun hothers
    rw [hrun.after] at hlater hafter
    obtain ⟨rfl, hlast⟩ := hrest.unique hlater hother hafter hcallees
    exact ⟨rfl, hlast⟩
  | .nil, .call .. | .call .., .nil => cases hsame

end

/-! ## A handler that breaks off -/

/-- Where a script breaks off, it could as well have come to its end. -/
theorem Runs.calm {script : Script κ ρ} {w w' : World κ ρ σ} {deeds : Deeds (Handler κ ρ)}
    {clean : Bool} (h : Runs obey script w deeds clean w') :
    Runs obey script.calm w deeds true w' := by
  match h with
  | .done | .panic => exact .done
  | .command hobey hrest =>
    have hcalm := hrest.calm
    rw [Script.calm_emitting] at hcalm
    exact .command hobey hcalm
  | .subscribe hrest => exact .subscribe hrest.calm
  | .unsubscribe hrest => exact .unsubscribe hrest.calm
  | .emit hcalls hrest => exact .emit hcalls hrest.calm

/-- Whoever of the callees breaks off, all do the same as if it did not. -/
theorem Delivers.calm (which : Subscription (Handler κ ρ) → Bool) {e : FormEvent}
    {w w' : World κ ρ σ} {calls : Calls (Handler κ ρ)} (h : Delivers obey e w calls w') :
    Delivers obey e w (calls.calm which) w' := by
  match h with
  | .nil => exact .nil
  | .call (s := s) hrun hrest =>
    rw [Calls.calm]
    cases which s with
    | true => exact .call hrun.calm (hrest.calm which)
    | false => exact .call hrun (hrest.calm which)

/-! ## From the dispatch to a record -/

namespace Dispatch

/-- Whatever comes of an emission is told by a record. -/
def Told (obey : Obey κ ρ σ) (emit : Emit κ ρ σ) : Prop :=
  ∀ ⦃e w n w'⦄, emit e w = some (n, w') → ∃ calls, Delivery obey e w calls n w'

/-- A script is run with deeds that are orderly. -/
def Goes (obey : Obey κ ρ σ) (script : Script κ ρ) (w : World κ ρ σ) (clean : Bool)
    (w' : World κ ρ σ) : Prop :=
  ∃ deeds, Runs obey script w deeds clean w' ∧ deeds.Orderly w.bus

section

variable {emit : Emit κ ρ σ} {e : FormEvent} {script : Script κ ρ} {w mid w' : World κ ρ σ}
  {calls : Calls (Handler κ ρ)} {clean : Bool} {n : Nat}

theorem goes_emit {next : Nat → Script κ ρ} (hcalls : Delivery obey e w calls n mid)
    (hrest : Goes obey (next n) mid clean w') : Goes obey (.emit e next) w clean w' := by
  obtain ⟨deeds, hruns, horderly⟩ := hrest
  refine ⟨.emitted e calls n deeds, .emit hcalls.delivers hruns, hcalls.callees, hcalls.count,
    hcalls.orderly, ?_⟩
  rw [hcalls.delivers.after]
  exact horderly

theorem Goes.emitting {events : List FormEvent} (hemit : Told obey emit)
    (h : emitEach emit events w = some mid) (hrest : Goes obey script mid clean w') :
    Goes obey (.emitting events script) w clean w' := by
  induction events generalizing w with
  | nil =>
    cases h
    exact hrest
  | cons e rest ih =>
    obtain ⟨⟨n, next⟩, hnext, hlater⟩ := Option.bind_eq_some_iff.mp h
    obtain ⟨calls, hcalls⟩ := hemit hnext
    exact goes_emit hcalls (ih hlater)

theorem Told.run (hemit : Told obey emit) (h : run obey emit script w = some (clean, w')) :
    Goes obey script w clean w' := by
  induction script generalizing w with
  | done =>
    cases h
    exact ⟨.nil, .done, trivial⟩
  | panic =>
    cases h
    exact ⟨.nil, .panic, trivial⟩
  | command c next ih =>
    obtain ⟨⟨answer, events, state⟩, hobey, hemitted⟩ := Option.bind_eq_some_iff.mp h
    obtain ⟨mid, hmid, hrest⟩ := Option.bind_eq_some_iff.mp hemitted
    obtain ⟨deeds, hruns, horderly⟩ := Goes.emitting hemit hmid (ih _ hrest)
    exact ⟨deeds, .command hobey hruns, horderly⟩
  | subscribe kind handler next _ ih =>
    obtain ⟨deeds, hruns, horderly⟩ := ih _ h
    exact ⟨_, .subscribe hruns, horderly⟩
  | unsubscribe id next ih =>
    obtain ⟨deeds, hruns, horderly⟩ := ih _ h
    exact ⟨_, .unsubscribe hruns, horderly⟩
  | emit e next ih =>
    obtain ⟨⟨n, mid⟩, hmid, hrest⟩ := Option.bind_eq_some_iff.mp h
    obtain ⟨calls, hcalls⟩ := hemit hmid
    exact goes_emit hcalls (ih _ hrest)

theorem Told.deliver (hemit : Told obey emit)
    {listeners : List (Subscription (Handler κ ρ))}
    (h : deliver obey emit e listeners w = some (n, w')) :
    ∃ calls, Delivers obey e w calls w' ∧ calls.callees = listeners ∧ calls.Orderly w.bus ∧
      n = calls.cleanCount := by
  induction listeners generalizing w n with
  | nil =>
    cases h
    exact ⟨.nil, .nil, rfl, trivial, rfl⟩
  | cons s rest ih =>
    obtain ⟨⟨clean, mid⟩, hmid, hrest⟩ := Option.bind_eq_some_iff.mp h
    obtain ⟨⟨count, last⟩, hlast, heq⟩ := Option.map_eq_some_iff.mp hrest
    cases heq
    obtain ⟨deeds, hruns, hdeeds⟩ := hemit.run hmid
    obtain ⟨calls, hdelivers, rfl, hcalls, rfl⟩ := ih hlast
    refine ⟨.call s deeds clean calls, .call hruns hdelivers, rfl, ⟨hdeeds, ?_⟩, rfl⟩
    rw [hruns.after]
    exact hcalls

end

theorem told_emit (obey : Obey κ ρ σ) (depth : Nat) : Told obey (emit obey depth) := by
  induction depth with
  | zero =>
    intro e w n w' h
    cases h
  | succ depth ih =>
    intro e w n w' h
    obtain ⟨calls, hdelivers, hcallees, horderly, hcount⟩ := ih.deliver h
    exact ⟨calls, hdelivers, hcallees, horderly, hcount⟩

/-! ## From a record to the dispatch -/

/-- From some depth on, the result is always the same. -/
def Settles {α : Type} (f : Nat → Option α) (a : α) : Prop :=
  ∃ depth, ∀ deeper, depth ≤ deeper → f deeper = some a

section

variable {α β : Type} {f : Nat → Option α} {a : α} {b : β}

theorem Settles.some (a : α) : Settles (fun _ => some a) a :=
  ⟨0, fun _ _ => rfl⟩

theorem Settles.bind {g : Nat → α → Option β} (hf : Settles f a)
    (hg : Settles (fun depth => g depth a) b) :
    Settles (fun depth => (f depth).bind (g depth)) b := by
  obtain ⟨m, hm⟩ := hf
  obtain ⟨n, hn⟩ := hg
  refine ⟨max m n, fun deeper hdeeper => ?_⟩
  show (f deeper).bind (g deeper) = _
  rw [hm deeper (Nat.le_trans (Nat.le_max_left m n) hdeeper)]
  exact hn deeper (Nat.le_trans (Nat.le_max_right m n) hdeeper)

theorem Settles.map (g : α → β) (hf : Settles f a) :
    Settles (fun depth => (f depth).map g) (g a) := by
  obtain ⟨m, hm⟩ := hf
  refine ⟨m, fun deeper hdeeper => ?_⟩
  show (f deeper).map g = _
  rw [hm deeper hdeeper]
  rfl

end

/-- Events emitted before a script are those of the script that emits them first. -/
theorem run_emitting (obey : Obey κ ρ σ) (emit : Emit κ ρ σ) (events : List FormEvent)
    (script : Script κ ρ) (w : World κ ρ σ) :
    run obey emit (.emitting events script) w =
      (emitEach emit events w).bind (run obey emit script) := by
  induction events generalizing w with
  | nil => rfl
  | cons e rest ih =>
    show run obey emit (.emit e fun _ => .emitting rest script) w = _
    rw [run, emitEach]
    cases emit e w with
    | none => rfl
    | some result => exact ih result.2

/-- An emission settles one level above its delivery. -/
theorem Settles.emit {e : FormEvent} {w : World κ ρ σ} {result : Nat × World κ ρ σ}
    (h : Settles (fun depth => deliver obey (emit obey depth) e (w.bus.listeners e) w) result) :
    Settles (fun depth => emit obey depth e w) result := by
  obtain ⟨depth, hdepth⟩ := h
  refine ⟨depth + 1, fun deeper hdeeper => ?_⟩
  cases deeper with
  | zero => cases hdeeper
  | succ below => exact hdepth below (Nat.le_of_succ_le_succ hdeeper)

end Dispatch

open Dispatch

mutual

theorem Runs.settles {script : Script κ ρ} {w w' : World κ ρ σ} {deeds : Deeds (Handler κ ρ)}
    {clean : Bool} (h : Runs obey script w deeds clean w') (horderly : deeds.Orderly w.bus) :
    Settles (fun depth => run obey (emit obey depth) script w) (clean, w') := by
  match h with
  | .done | .panic => exact .some _
  | .command hobey hrest =>
    have hsettles := hrest.settles horderly
    -- The events of the command are emitted before the rest, not by it.
    simp only [run_emitting] at hsettles
    simp only [run, hobey, Option.bind_some]
    exact hsettles
  | .subscribe hrest | .unsubscribe hrest => exact hrest.settles horderly
  | .emit hcalls hrest =>
    obtain ⟨hcallees, hcount, hinside, hlater⟩ := horderly
    rw [hcalls.after] at hlater
    have hdeliver := hcalls.settles hinside
    rw [hcallees, ← hcount] at hdeliver
    exact hdeliver.emit.bind (hrest.settles hlater)

theorem Delivers.settles {e : FormEvent} {w w' : World κ ρ σ} {calls : Calls (Handler κ ρ)}
    (h : Delivers obey e w calls w') (horderly : calls.Orderly w.bus) :
    Settles (fun depth => deliver obey (emit obey depth) e calls.callees w)
      (calls.cleanCount, w') := by
  match h with
  | .nil => exact .some _
  | .call hrun hrest =>
    obtain ⟨hdeeds, hlater⟩ := horderly
    rw [hrun.after] at hlater
    exact (hrun.settles hdeeds).bind ((hrest.settles hlater).map _)

end

/-- An emission that comes to its end does what exactly one record tells: those who were subscribed
for the event when it was emitted are called, each once and in their order, whoever was subscribed
or taken away meanwhile, and the number of those that came to their end is given back. Every such
record is what the emission comes to. Whoever of the callees breaks off, the others do, and leave,
the same as if it had come to its end. -/
theorem Dispatch.emit_delivers (obey : Obey κ ρ σ) (e : FormEvent) (w : World κ ρ σ) :
    (∀ depth n w', emit obey depth e w = some (n, w') → ∃! calls, Delivery obey e w calls n w') ∧
    ∀ calls n w', Delivery obey e w calls n w' →
      Settles (fun depth => emit obey depth e w) (n, w') ∧
        ∀ which, Delivers obey e w (calls.calm which) w' := by
  constructor
  · intro depth n w' h
    obtain ⟨calls, hcalls⟩ := told_emit obey depth h
    refine ⟨calls, hcalls, fun others hothers => ?_⟩
    exact (hothers.delivers.unique hothers.orderly hcalls.delivers hcalls.orderly
      (hothers.callees.trans hcalls.callees.symm)).1
  · intro calls n w' h
    have hdeliver := h.delivers.settles h.orderly
    rw [h.callees, ← h.count] at hdeliver
    exact ⟨hdeliver.emit, fun which => h.delivers.calm which⟩

/-- Five subscribers. The first takes the third away and emits an event of its own, the second
breaks off, the third only logs, and the fourth subscribes another one. The fifth is there for that
other event alone. -/
def LoggedBus.crowd : LoggedBus :=
  [(none, Reaction.act (some 2) (some .formReset)), (none, .panic), (none, .log), (none, .add),
    (some EventKind.formReset, .log)].foldl
    (fun w (kind, reaction) => (w.subscribe kind reaction).2) { state := {} }

/-- The third subscriber is called although it is taken away, and nobody who is subscribed
meanwhile is. The fifth is called for the event that the first emits, and not for this one. -/
theorem Dispatch.emit_delivers_crowd :
    ∃ calls w', emit EventLog.obey 3 .formRendered LoggedBus.crowd = some (3, w') ∧
      LoggedBus.crowd.bus.subscriptions.map (·.id) = [0, 1, 2, 3, 4] ∧
      (LoggedBus.crowd.bus.listeners .formReset).map (·.id) = [0, 1, 2, 3, 4] ∧
      w'.bus.subscriptions.map (·.id) = [0, 1, 3, 4, 5, 6] ∧
      calls.callees.map (·.id) = [0, 1, 2, 3] ∧
      Delivery EventLog.obey .formRendered LoggedBus.crowd calls 3 w' ∧
      Settles (fun depth => emit EventLog.obey depth .formRendered LoggedBus.crowd) (3, w') ∧
      ∀ which, Delivers EventLog.obey .formRendered LoggedBus.crowd (calls.calm which) w' := by
  have hdone : (emit EventLog.obey 3 .formRendered LoggedBus.crowd).map
      (fun r => (r.1, r.2.bus.subscriptions.map (·.id))) = some (3, [0, 1, 3, 4, 5, 6]) := by
    decide +kernel
  obtain ⟨⟨n, w'⟩, hemit, hresult⟩ := Option.map_eq_some_iff.mp hdone
  obtain ⟨rfl, hafter⟩ := Prod.mk.inj hresult
  obtain ⟨htold, hback⟩ := emit_delivers EventLog.obey .formRendered LoggedBus.crowd
  obtain ⟨calls, hcalls, -⟩ := htold 3 _ w' hemit
  refine ⟨calls, w', hemit, by decide, by decide, hafter, ?_, hcalls, hback calls _ w' hcalls⟩
  rw [hcalls.callees]
  decide

end LiveForm
