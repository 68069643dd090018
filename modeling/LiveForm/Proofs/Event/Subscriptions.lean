import LiveForm.Proofs.Event.Delivery

/-!
# Subscriptions over time

Handlers subscribe others and take subscriptions away while events are dispatched, and emit further
events from inside. Whatever they do, the calls on a bus come one after the other. `Bus.History`
says which calls lead from one bus to another, and `Amid` which calls were made when the run of a
script has come to some point, however deep in emissions inside emissions, also where the emission
never comes to its end.

Since a new bus, the calls account for its subscriptions (`Bus.Accounted`): the numbers that were
given are 0, 1, 2 and so on, and those subscriptions are there that were made and not taken away.
-/

namespace LiveForm

/-! ## Calls on a bus -/

/-- A call that makes a subscription or is to take one away, with what it gave back. -/
inductive BusCall (η : Type) where
  | subscribe (s : Subscription η)
  | unsubscribe (id : Nat) (found : Bool)

namespace BusCall

variable {η : Type}

/-- The subscription that a call made. -/
def made? : BusCall η → Option (Subscription η)
  | subscribe s => some s
  | unsubscribe _ _ => none

/-- The number of the subscription that a call took away. -/
def removed? : BusCall η → Option Nat
  | subscribe _ => none
  | unsubscribe id found => if found then some id else none

/-- The subscriptions that were made, in their order. -/
def made (calls : List (BusCall η)) : List (Subscription η) := calls.filterMap made?

/-- The numbers of the subscriptions that were taken away. -/
def removed (calls : List (BusCall η)) : List Nat := calls.filterMap removed?

@[simp] theorem made_subscribe (calls : List (BusCall η)) (s : Subscription η) :
    made (calls ++ [.subscribe s]) = made calls ++ [s] := by
  simp [made, made?]

@[simp] theorem made_unsubscribe (calls : List (BusCall η)) (id : Nat) (found : Bool) :
    made (calls ++ [.unsubscribe id found]) = made calls := by
  simp [made, made?]

@[simp] theorem removed_subscribe (calls : List (BusCall η)) (s : Subscription η) :
    removed (calls ++ [.subscribe s]) = removed calls := by
  simp [removed, removed?]

@[simp] theorem removed_found (calls : List (BusCall η)) (id : Nat) :
    removed (calls ++ [.unsubscribe id true]) = removed calls ++ [id] := by
  simp [removed, removed?]

@[simp] theorem removed_missed (calls : List (BusCall η)) (id : Nat) :
    removed (calls ++ [.unsubscribe id false]) = removed calls := by
  simp [removed, removed?]

end BusCall

namespace Bus

variable {η : Type} {bus mid last : Bus η} {calls later : List (BusCall η)} {id : Nat}

/-- Calls are made one after the other and lead from one bus to another. -/
inductive History : Bus η → List (BusCall η) → Bus η → Prop
  | nil {bus : Bus η} : History bus [] bus
  | subscribe {bus last : Bus η} {calls : List (BusCall η)} {kind : Option EventKind} {handler : η}
      (hrest : History (bus.subscribe kind handler).2 calls last) :
      History bus (.subscribe ⟨(bus.subscribe kind handler).1, kind, handler⟩ :: calls) last
  | unsubscribe {bus last : Bus η} {calls : List (BusCall η)} {id : Nat}
      (hrest : History (bus.unsubscribe id).2 calls last) :
      History bus (.unsubscribe id (bus.unsubscribe id).1 :: calls) last

theorem History.append (hfirst : bus.History calls mid) (hlast : mid.History later last) :
    bus.History (calls ++ later) last := by
  induction hfirst with
  | nil => exact hlast
  | subscribe _ ih => exact .subscribe (ih hlast)
  | unsubscribe _ ih => exact .unsubscribe (ih hlast)

/-- A history can be cut at every time. -/
theorem History.cut (h : bus.History (calls ++ later) last) :
    ∃ mid, bus.History calls mid ∧ mid.History later last := by
  induction calls generalizing bus with
  | nil => exact ⟨bus, .nil, h⟩
  | cons call rest ih =>
    cases h with
    | subscribe hrest =>
      obtain ⟨mid, hmid, hlast⟩ := ih hrest
      exact ⟨mid, .subscribe hmid, hlast⟩
    | unsubscribe hrest =>
      obtain ⟨mid, hmid, hlast⟩ := ih hrest
      exact ⟨mid, .unsubscribe hmid, hlast⟩

/-- What every call keeps, with the calls up to it, holds at the end of a history. -/
theorem History.keeps {P : List (BusCall η) → Bus η → Prop}
    (hsubscribe : ∀ calls bus kind handler, P calls bus →
      P (calls ++ [.subscribe ⟨(bus.subscribe kind handler).1, kind, handler⟩])
        (bus.subscribe kind handler).2)
    (hunsubscribe : ∀ calls bus id, P calls bus →
      P (calls ++ [.unsubscribe id (bus.unsubscribe id).1]) (bus.unsubscribe id).2)
    (h : bus.History later last) (hbefore : P calls bus) : P (calls ++ later) last := by
  induction h generalizing calls with
  | nil => rwa [List.append_nil]
  | subscribe _ ih =>
    rw [List.append_cons]
    exact ih (hsubscribe _ _ _ _ hbefore)
  | unsubscribe _ ih =>
    rw [List.append_cons]
    exact ih (hunsubscribe _ _ _ hbefore)

theorem has_iff {bus : Bus η} : bus.has id = true ↔ ∃ s ∈ bus.subscriptions, s.id = id := by
  simp [has]

/-- Where nothing is found, nothing is taken away. -/
theorem unsubscribe_of_not_has (h : bus.has id = false) : (bus.unsubscribe id).2 = bus := by
  have hkept : bus.subscriptions.filter (fun s => s.id != id) = bus.subscriptions := by
    refine List.filter_eq_self.mpr fun s hs => bne_iff_ne.mpr fun hid => ?_
    rw [has_iff.mpr ⟨s, hs, hid⟩] at h
    cases h
  rw [unsubscribe, hkept]

/-! ## What calls since a new bus account for -/

/-- The subscriptions since a new bus: the numbers that were given are those below the next one, in
their order, and those subscriptions are there that were made and not taken away. -/
structure Kept (calls : List (BusCall η)) (bus : Bus η) : Prop where
  numbered : (BusCall.made calls).map (·.id) = List.range bus.nextId
  listed : bus.subscriptions = (BusCall.made calls).filter fun s => s.id ∉ BusCall.removed calls
  once : (BusCall.removed calls).Nodup
  given : ∀ id ∈ BusCall.removed calls, id < bus.nextId

namespace Kept

theorem mem_ids (h : bus.Kept calls) :
    id ∈ bus.subscriptions.map (·.id) ↔ id < bus.nextId ∧ id ∉ BusCall.removed calls := by
  rw [← List.mem_range, ← h.numbered, h.listed]
  simp only [List.mem_map, List.mem_filter, decide_eq_true_eq]
  constructor
  · rintro ⟨s, ⟨hmade, hkept⟩, rfl⟩
    exact ⟨⟨s, hmade, rfl⟩, hkept⟩
  · rintro ⟨⟨s, hmade, rfl⟩, hkept⟩
    exact ⟨s, ⟨hmade, hkept⟩, rfl⟩

theorem new : ({} : Bus η).Kept [] := ⟨rfl, rfl, List.nodup_nil, nofun⟩

theorem subscribe (h : bus.Kept calls) (kind : Option EventKind) (handler : η) :
    (bus.subscribe kind handler).2.Kept
      (calls ++ [.subscribe ⟨(bus.subscribe kind handler).1, kind, handler⟩]) where
  numbered := by
    rw [BusCall.made_subscribe, List.map_append, h.numbered]
    exact List.range_succ.symm
  listed := by
    have hnew : bus.nextId ∉ BusCall.removed calls := fun hid => Nat.lt_irrefl _ (h.given _ hid)
    rw [BusCall.made_subscribe, BusCall.removed_subscribe, List.filter_append, ← h.listed]
    simp [Bus.subscribe, hnew]
  once := by
    rw [BusCall.removed_subscribe]
    exact h.once
  given id hid := by
    rw [BusCall.removed_subscribe] at hid
    exact Nat.lt_succ_of_lt (h.given id hid)

theorem missed (h : bus.Kept calls) (id : Nat) : bus.Kept (calls ++ [.unsubscribe id false]) where
  numbered := by
    rw [BusCall.made_unsubscribe]
    exact h.numbered
  listed := by
    rw [BusCall.made_unsubscribe, BusCall.removed_missed]
    exact h.listed
  once := by
    rw [BusCall.removed_missed]
    exact h.once
  given := by
    rw [BusCall.removed_missed]
    exact h.given

theorem found (h : bus.Kept calls) (hhas : bus.has id = true) :
    (bus.unsubscribe id).2.Kept (calls ++ [.unsubscribe id true]) := by
  obtain ⟨hgiven, hkept⟩ := h.mem_ids.mp (List.mem_map.mpr (has_iff.mp hhas))
  refine ⟨?_, ?_, ?_, ?_⟩
  · rw [BusCall.made_unsubscribe]
    exact h.numbered
  · rw [BusCall.made_unsubscribe, BusCall.removed_found]
    show bus.subscriptions.filter (fun s => s.id != id) = _
    rw [h.listed, List.filter_filter]
    refine List.filter_congr fun s _ => ?_
    rw [Bool.eq_iff_iff]
    simp [and_comm]
  · rw [BusCall.removed_found, List.nodup_append]
    refine ⟨h.once, List.pairwise_singleton _ id, fun a ha b hb heq => hkept ?_⟩
    rwa [← List.mem_singleton.mp hb, ← heq]
  · intro other hother
    rw [BusCall.removed_found] at hother
    rcases List.mem_append.mp hother with hother | hother
    · exact h.given other hother
    · rw [List.mem_singleton.mp hother]
      exact hgiven

theorem unsubscribe (h : bus.Kept calls) (id : Nat) :
    (bus.unsubscribe id).2.Kept (calls ++ [.unsubscribe id (bus.unsubscribe id).1]) := by
  cases hhas : bus.has id with
  | true =>
    rw [show (bus.unsubscribe id).1 = true from hhas]
    exact h.found hhas
  | false =>
    rw [show (bus.unsubscribe id).1 = false from hhas, unsubscribe_of_not_has hhas]
    exact h.missed id

end Kept

/-- A history since a new bus accounts for its subscriptions. -/
theorem History.kept (h : History ({} : Bus η) calls bus) : bus.Kept calls :=
  h.keeps (fun _ _ kind handler h => h.subscribe kind handler) (fun _ _ id h => h.unsubscribe id)
    Kept.new

/-- What calls since a new bus have to do with its subscriptions. The numbers that were given ascend
by one, and so none is given again. A number is found exactly if there is a subscription with it,
which is then taken away and no other. -/
structure Accounted (calls : List (BusCall η)) (bus : Bus η) : Prop where
  numbered : (BusCall.made calls).map (·.id) = List.range (BusCall.made calls).length
  increasing : (bus.subscriptions.map (·.id)).Pairwise (· < ·)
  listed : bus.subscriptions = (BusCall.made calls).filter fun s => s.id ∉ BusCall.removed calls
  once : (BusCall.removed calls).Nodup
  count : bus.count + (BusCall.removed calls).length = (BusCall.made calls).length
  found : ∀ id, (bus.unsubscribe id).1 = true ↔ ∃ s ∈ bus.subscriptions, s.id = id
  taken : ∀ id, (bus.unsubscribe id).1 = true → ∃ before s after,
    bus.subscriptions = before ++ s :: after ∧ s.id = id ∧
      (bus.unsubscribe id).2.subscriptions = before ++ after
  missed : ∀ id, (bus.unsubscribe id).1 = false → (bus.unsubscribe id).2 = bus

namespace Kept

theorem increasing (h : bus.Kept calls) : (bus.subscriptions.map (·.id)).Pairwise (· < ·) := by
  have hsublist : (bus.subscriptions.map (·.id)).Sublist (List.range bus.nextId) := by
    rw [← h.numbered, h.listed]
    exact List.filter_sublist.map _
  exact List.pairwise_lt_range.sublist hsublist

theorem length_made (h : bus.Kept calls) : (BusCall.made calls).length = bus.nextId := by
  rw [← List.length_map (·.id), h.numbered, List.length_range]

/-- The numbers that were given are those that are there and those that were taken away. -/
theorem count (h : bus.Kept calls) :
    bus.count + (BusCall.removed calls).length = (BusCall.made calls).length := by
  have hnodup : (bus.subscriptions.map (·.id) ++ BusCall.removed calls).Nodup := by
    refine List.nodup_append.mpr ⟨h.increasing.imp Nat.ne_of_lt, h.once, ?_⟩
    rintro a ha b hb rfl
    exact (h.mem_ids.mp ha).2 hb
  have hperm : (bus.subscriptions.map (·.id) ++ BusCall.removed calls).Perm
      (List.range bus.nextId) := by
    refine (List.perm_ext_iff_of_nodup hnodup List.nodup_range).mpr fun id => ?_
    rw [List.mem_append, h.mem_ids, List.mem_range]
    constructor
    · rintro (⟨hid, -⟩ | hid)
      · exact hid
      · exact h.given id hid
    · intro hid
      by_cases hremoved : id ∈ BusCall.removed calls
      · exact .inr hremoved
      · exact .inl ⟨hid, hremoved⟩
  have hlength := hperm.length_eq
  rw [List.length_append, List.length_map, List.length_range, ← h.length_made] at hlength
  exact hlength

/-- With ascending numbers a removal concerns one subscription. -/
theorem taken (h : bus.Kept calls) (hfound : (bus.unsubscribe id).1 = true) :
    ∃ before s after, bus.subscriptions = before ++ s :: after ∧ s.id = id ∧
      (bus.unsubscribe id).2.subscriptions = before ++ after := by
  obtain ⟨s, hs, hid⟩ := has_iff.mp hfound
  obtain ⟨before, after, hsplit⟩ := List.append_of_mem hs
  have hincreasing := h.increasing
  rw [hsplit, List.map_append, List.map_cons, List.pairwise_append] at hincreasing
  obtain ⟨-, hfrom, hup⟩ := hincreasing
  have hbefore : ∀ other ∈ before, other.id ≠ id := by
    intro other hother
    rw [← hid]
    exact Nat.ne_of_lt (hup _ (List.mem_map_of_mem hother) _ List.mem_cons_self)
  have hafter : ∀ other ∈ after, other.id ≠ id := by
    intro other hother
    rw [← hid]
    exact Nat.ne_of_gt (List.rel_of_pairwise_cons hfrom (List.mem_map_of_mem hother))
  refine ⟨before, s, after, hsplit, hid, ?_⟩
  show bus.subscriptions.filter (fun s => s.id != id) = _
  rw [hsplit, List.filter_append, List.filter_cons_of_neg (by simp [hid]),
    List.filter_eq_self.mpr fun other hother => bne_iff_ne.mpr (hbefore other hother),
    List.filter_eq_self.mpr fun other hother => bne_iff_ne.mpr (hafter other hother)]

theorem accounted (h : bus.Kept calls) : bus.Accounted calls where
  numbered := by rw [h.length_made, h.numbered]
  increasing := h.increasing
  listed := h.listed
  once := h.once
  count := h.count
  found _ := has_iff
  taken _ := h.taken
  missed _ := unsubscribe_of_not_has

end Kept

end Bus

/-! ## The calls of a dispatch -/

section

variable {η : Type}

mutual

/-- The calls on the bus among deeds, also of handlers that are called on their behalf, in order. -/
def Deeds.busCalls : Deeds η → List (BusCall η)
  | .nil => []
  | .subscribed s rest => .subscribe s :: rest.busCalls
  | .unsubscribed id found rest => .unsubscribe id found :: rest.busCalls
  | .emitted _ calls _ rest => calls.busCalls ++ rest.busCalls

def Calls.busCalls : Calls η → List (BusCall η)
  | .nil => []
  | .call _ deeds _ rest => deeds.busCalls ++ rest.busCalls

end

end

variable {κ ρ σ : Type} {obey : Obey κ ρ σ}

mutual

/-- A script is run, and has come to a world after some calls on the bus. It need not be at its end,
or ever get there. -/
inductive Amid (obey : Obey κ ρ σ) :
    Script κ ρ → World κ ρ σ → List (BusCall (Handler κ ρ)) → World κ ρ σ → Prop
  | here {script : Script κ ρ} {w : World κ ρ σ} : Amid obey script w [] w
  | command {c : κ} {next : ρ → Script κ ρ} {w w' : World κ ρ σ} {answer : ρ}
      {events : List FormEvent} {state : σ} {calls : List (BusCall (Handler κ ρ))}
      (hobey : obey c w.state = some (answer, events, state))
      (hrest : Amid obey (.emitting events (next answer)) { w with state := state } calls w') :
      Amid obey (.command c next) w calls w'
  | subscribe {kind : Option EventKind} {handler : Handler κ ρ} {next : Nat → Script κ ρ}
      {w w' : World κ ρ σ} {calls : List (BusCall (Handler κ ρ))}
      (hrest : Amid obey (next (w.bus.subscribe kind handler).1)
        { w with bus := (w.bus.subscribe kind handler).2 } calls w') :
      Amid obey (.subscribe kind handler next) w
        (.subscribe ⟨(w.bus.subscribe kind handler).1, kind, handler⟩ :: calls) w'
  | unsubscribe {id : Nat} {next : Bool → Script κ ρ} {w w' : World κ ρ σ}
      {calls : List (BusCall (Handler κ ρ))}
      (hrest : Amid obey (next (w.bus.unsubscribe id).1)
        { w with bus := (w.bus.unsubscribe id).2 } calls w') :
      Amid obey (.unsubscribe id next) w (.unsubscribe id (w.bus.unsubscribe id).1 :: calls) w'
  /-- One of those who are called for an event is not at its end. -/
  | inside {e : FormEvent} {next : Nat → Script κ ρ} {w w' : World κ ρ σ}
      {calls : List (BusCall (Handler κ ρ))}
      (hinside : AmidCalls obey e (w.bus.listeners e) w calls w') :
      Amid obey (.emit e next) w calls w'
  | emit {e : FormEvent} {next : Nat → Script κ ρ} {w mid w' : World κ ρ σ}
      {emitted : Calls (Handler κ ρ)} {n : Nat} {calls : List (BusCall (Handler κ ρ))}
      (hemitted : Delivery obey e w emitted n mid) (hrest : Amid obey (next n) mid calls w') :
      Amid obey (.emit e next) w (emitted.busCalls ++ calls) w'

/-- Subscribers are called for an event one after the other, and one of them has come to a world. -/
inductive AmidCalls (obey : Obey κ ρ σ) :
    FormEvent → List (Subscription (Handler κ ρ)) → World κ ρ σ → List (BusCall (Handler κ ρ)) →
      World κ ρ σ → Prop
  | first {e : FormEvent} {s : Subscription (Handler κ ρ)}
      {rest : List (Subscription (Handler κ ρ))} {w w' : World κ ρ σ}
      {calls : List (BusCall (Handler κ ρ))} (hfirst : Amid obey (s.handler e) w calls w') :
      AmidCalls obey e (s :: rest) w calls w'
  | later {e : FormEvent} {s : Subscription (Handler κ ρ)}
      {rest : List (Subscription (Handler κ ρ))} {w mid w' : World κ ρ σ}
      {deeds : Deeds (Handler κ ρ)} {clean : Bool} {calls : List (BusCall (Handler κ ρ))}
      (hrun : Runs obey (s.handler e) w deeds clean mid) (horderly : deeds.Orderly w.bus)
      (hrest : AmidCalls obey e rest mid calls w') :
      AmidCalls obey e (s :: rest) w (deeds.busCalls ++ calls) w'

end

/-! ### What was called is a history of the bus -/

mutual

theorem Runs.history {script : Script κ ρ} {w w' : World κ ρ σ} {deeds : Deeds (Handler κ ρ)}
    {clean : Bool} (h : Runs obey script w deeds clean w') :
    w.bus.History deeds.busCalls w'.bus := by
  match h with
  | .done | .panic => exact .nil
  | .command _ hrest => exact hrest.history
  | .subscribe hrest => exact .subscribe hrest.history
  | .unsubscribe hrest => exact .unsubscribe hrest.history
  | .emit hcalls hrest => exact hcalls.history.append hrest.history

theorem Delivers.history {e : FormEvent} {w w' : World κ ρ σ} {calls : Calls (Handler κ ρ)}
    (h : Delivers obey e w calls w') :
    w.bus.History calls.busCalls w'.bus := by
  match h with
  | .nil => exact .nil
  | .call hrun hrest => exact hrun.history.append hrest.history

end

mutual

theorem Amid.history {script : Script κ ρ} {w w' : World κ ρ σ}
    {calls : List (BusCall (Handler κ ρ))} (h : Amid obey script w calls w') :
    w.bus.History calls w'.bus := by
  match h with
  | .here => exact .nil
  | .command _ hrest => exact hrest.history
  | .subscribe hrest => exact .subscribe hrest.history
  | .unsubscribe hrest => exact .unsubscribe hrest.history
  | .inside hinside => exact hinside.history
  | .emit hemitted hrest => exact hemitted.delivers.history.append hrest.history

theorem AmidCalls.history {e : FormEvent} {listeners : List (Subscription (Handler κ ρ))}
    {w w' : World κ ρ σ} {calls : List (BusCall (Handler κ ρ))}
    (h : AmidCalls obey e listeners w calls w') :
    w.bus.History calls w'.bus := by
  match h with
  | .first hfirst => exact hfirst.history
  | .later hrun _ hrest => exact hrun.history.append hrest.history

end

/-! ### The end of a dispatch -/

namespace Dispatch

variable {emit : Emit κ ρ σ} {script : Script κ ρ} {w mid w' : World κ ρ σ} {clean : Bool}

theorem exists_amid_emitting {events : List FormEvent} (hemit : Told obey emit)
    (h : emitEach emit events w = some mid) (hrest : ∃ calls, Amid obey script mid calls w') :
    ∃ calls, Amid obey (.emitting events script) w calls w' := by
  induction events generalizing w with
  | nil =>
    cases h
    exact hrest
  | cons e rest ih =>
    obtain ⟨⟨n, next⟩, hnext, hlater⟩ := Option.bind_eq_some_iff.mp h
    obtain ⟨emitted, hemitted⟩ := hemit hnext
    obtain ⟨calls, hcalls⟩ := ih hlater
    exact ⟨_, .emit hemitted hcalls⟩

/-- A script that is run to its end comes there. -/
theorem Told.exists_amid (hemit : Told obey emit)
    (h : Dispatch.run obey emit script w = some (clean, w')) :
    ∃ calls, Amid obey script w calls w' := by
  induction script generalizing w with
  | done | panic =>
    cases h
    exact ⟨_, .here⟩
  | command c next ih =>
    obtain ⟨⟨answer, events, state⟩, hobey, hemitted⟩ := Option.bind_eq_some_iff.mp h
    obtain ⟨mid, hmid, hrest⟩ := Option.bind_eq_some_iff.mp hemitted
    obtain ⟨calls, hcalls⟩ := exists_amid_emitting hemit hmid (ih _ hrest)
    exact ⟨_, .command hobey hcalls⟩
  | subscribe kind handler next _ ih =>
    obtain ⟨calls, hcalls⟩ := ih _ h
    exact ⟨_, .subscribe hcalls⟩
  | unsubscribe id next ih =>
    obtain ⟨calls, hcalls⟩ := ih _ h
    exact ⟨_, .unsubscribe hcalls⟩
  | emit e next ih =>
    obtain ⟨⟨n, mid⟩, hmid, hrest⟩ := Option.bind_eq_some_iff.mp h
    obtain ⟨emitted, hemitted⟩ := hemit hmid
    obtain ⟨calls, hcalls⟩ := ih _ hrest
    exact ⟨_, .emit hemitted hcalls⟩

end Dispatch

/-- Whatever is called on a new bus, also by handlers and inside their emissions, and wherever that
has come to: the calls so far account for the subscriptions, and so did those up to any earlier time
for the subscriptions then. What a dispatch has done at its end is among this. As long as fewer than
2⁶⁴ subscriptions are made, their numbers have 64 bits. -/
theorem Dispatch.calls_accounted (obey : Obey κ ρ σ) (script : Script κ ρ) (state : σ) :
    (∀ calls w', Amid obey script { state := state } calls w' →
      w'.bus.Accounted calls ∧
      ∀ before after, calls = before ++ after →
        ∃ mid : Bus (Handler κ ρ), mid.Accounted before ∧ mid.History after w'.bus) ∧
    ∀ depth clean w', run obey (emit obey depth) script { state := state } = some (clean, w') →
      ∃ calls, Amid obey script { state := state } calls w' := by
  constructor
  · intro calls w' h
    refine ⟨h.history.kept.accounted, ?_⟩
    rintro before after rfl
    obtain ⟨mid, hbefore, hafter⟩ := h.history.cut
    exact ⟨mid, hbefore.kept.accounted, hafter⟩
  · intro depth clean w' h
    exact (told_emit obey depth).exists_amid h

/-- Two subscribers. The first takes itself away twice and subscribes another one, the second breaks
off. After an event both are taken away, the first of them once more. -/
def LoggedBus.turnover : Script LogCommand (Option Nat) :=
  .subscribe none
    (fun _ => .unsubscribe 0 fun _ => .unsubscribe 0 fun _ =>
      .subscribe none (LoggedBus.logger 2) fun _ => .done)
    fun first => .subscribe (some .formReset) (fun _ => .panic)
      fun second => .emit .formReset
        fun _ => .unsubscribe first fun _ => .unsubscribe second fun _ => .done

/-- The one who was subscribed last remains. -/
theorem Dispatch.calls_accounted_turnover :
    ∃ calls w', run EventLog.obey (emit EventLog.obey 2) LoggedBus.turnover { state := {} } =
        some (true, w') ∧
      Amid EventLog.obey LoggedBus.turnover { state := {} } calls w' ∧ w'.bus.Accounted calls ∧
      w'.bus.subscriptions.map (·.id) = [2] ∧
      (BusCall.made calls).length = (BusCall.removed calls).length + 1 := by
  obtain ⟨haccounted, hended⟩ := calls_accounted EventLog.obey LoggedBus.turnover {}
  obtain ⟨calls, hcalls⟩ := hended 2 true _ rfl
  obtain ⟨hbus, -⟩ := haccounted calls _ hcalls
  exact ⟨calls, _, rfl, hcalls, hbus, rfl, hbus.count.symm.trans (Nat.add_comm _ _)⟩

end LiveForm
