import LiveForm.Proofs.Event.Dispatch
import LiveForm.Proofs.Session.Flag
import LiveForm.Rehearsal.Step

/-!
# A rehearsal is a session

Whatever is done in a rehearsal, with steps at once, with time in between, and with listeners that
call the engine back, its engine goes through the moves of one session (`Rehearsal.play_tracked`).
What holds of every run of a session therefore holds of every rehearsal. The payloads that the
session sends are those that the other side of the rehearsal notes.

While tasks wait, each load and each submission among them has a place in the session where it waits
too (`Waits`).
-/

namespace LiveForm

namespace Session

/-- What a move gives to the transport. -/
def Move.sent? : Move → Option (String × Payload)
  | send _ formId payload => some (formId, payload)
  | _ => none

/-- What a run gave to the transport, in order. -/
def sends (trace : List Turn) : List (String × Payload) :=
  trace.filterMap fun turn => turn.move.sent?

/-! ## Scenes -/

/-- A session comes to the engine of a scene, and it sent what the other side has noted. -/
def Reaches (options : EngineOptions) (timed : Bool) (scene : Scene) (loads : List LoadStage)
    (submits : List SubmitStage) : Prop :=
  ∃ trace, Run (.fresh options timed) trace ⟨scene.engine, loads, submits⟩ ∧
    sends trace = scene.counterpart.sent

variable {options : EngineOptions} {timed : Bool} {scene : Scene} {r r' : Rehearsal}
  {loads loads' : List LoadStage} {submits submits' : List SubmitStage} {move : Move}
  {events : List FormEvent} {e : Engine} {i n : Nat} {formId : String} {payload : Payload}

namespace Reaches

/-- A move that sends nothing changes the engine and leaves the rest of the scene. -/
theorem step (h : Reaches options timed scene loads submits)
    (hstep : Step ⟨scene.engine, loads, submits⟩ move events ⟨e, loads', submits'⟩)
    (hsent : move.sent? = none) :
    Reaches options timed { scene with engine := e } loads' submits' := by
  obtain ⟨trace, hrun, hsends⟩ := h
  refine ⟨_, hrun.turn hstep, ?_⟩
  rw [sends, List.filterMap_append, ← sends, hsends]
  simp [hsent]

/-- A payload that is sent is noted. -/
theorem send (h : Reaches options timed scene loads submits)
    (hstage : submits[i]? = some (.prepared formId payload)) :
    Reaches options timed
      { scene with counterpart := (scene.counterpart.submit formId payload).2 } loads
      (submits.set i (.sent formId payload)) := by
  obtain ⟨trace, hrun, hsends⟩ := h
  refine ⟨_, hrun.turn (.send i hstage), ?_⟩
  have hnoted : (scene.counterpart.submit formId payload).2.sent =
      scene.counterpart.sent ++ [(formId, payload)] := by
    unfold Counterpart.submit
    split <;> rfl
  rw [sends, List.filterMap_append, ← sends, hsends, hnoted]
  rfl

/-- Whatever a listener asks of the scene is a move, or none. -/
theorem obey {cue : Cue} {answer : Bool} {scene' : Scene}
    (hobey : Scene.obey cue scene = some (answer, events, scene'))
    (h : Reaches options timed scene loads submits) :
    Reaches options timed scene' loads submits := by
  cases cue with
  | note event =>
    cases hobey
    exact h
  | see listener limit kind =>
    cases hobey
    exact h
  | call c =>
    obtain ⟨⟨_, _, e⟩, hcall, heq⟩ := Option.map_eq_some_iff.mp hobey
    cases heq
    exact h.step (.call hcall) rfl

/-- A change that has a result is followed by a dispatch, which goes through moves, whatever the
listeners do. -/
theorem act {α : Type} {change : Engine → Option (α × List FormEvent × Engine)} {a : α}
    (hact : r.act change = some (a, r')) :
    ∃ events e, change r.engine = some (a, events, e) ∧
      ∀ {loads submits}, Reaches options timed { r.state with engine := e } loads submits →
        Reaches options timed r'.state loads submits := by
  obtain ⟨⟨_, events, e⟩, hchange, hdone⟩ := Option.bind_eq_some_iff.mp hact
  obtain ⟨last, hlast, heq⟩ := Option.map_eq_some_iff.mp hdone
  cases heq
  refine ⟨events, e, hchange, fun {loads submits} h => ?_⟩
  refine Dispatch.emitEach_keeps
    (P := fun scene => Reaches options timed scene loads submits) ?_ hlast h
  exact Dispatch.emit_keeps (fun _ _ _ _ _ hobey hscene => obey hobey hscene) Rehearsal.callDepth

/-- Most changes have a result always. -/
theorem act_some {α : Type} {change : Engine → α × List FormEvent × Engine} {a : α}
    (h : Reaches options timed { r.state with engine := (change r.engine).2.2 } loads submits)
    (hact : r.act (fun e => some (change e)) = some (a, r')) :
    a = (change r.engine).1 ∧ Reaches options timed r'.state loads submits := by
  obtain ⟨events, e, hchange, hkept⟩ := act hact
  have hresult := Option.some.inj hchange
  rw [hresult] at h ⊢
  exact ⟨rfl, hkept h⟩

/-- A load that arrives has come to its end. -/
theorem finishLoad {number : Nat} {source : FormSource} {task : Task}
    (h : Reaches options timed r.state loads submits)
    (hstage : loads[n]? = some (.fetching number source))
    (answer : Except TransportError FormDefinition)
    (hfinish : r.finishLoad number (source.arrived answer) = some (task, r')) :
    ∃ outcome, task = .done (.load outcome) ∧
      Reaches options timed r'.state (loads.set n (.ended outcome)) submits := by
  obtain ⟨⟨outcome, last⟩, hact, heq⟩ := Option.map_eq_some_iff.mp hfinish
  cases heq
  obtain ⟨events, e, hend, hkept⟩ := act hact
  exact ⟨outcome, rfl, hkept (h.step (.finishLoad n answer hstage hend) rfl)⟩

/-- A submission that is answered has come to its end, and gave the flag back. -/
theorem finishSubmit {task : Task} (h : Reaches options timed r.state loads submits)
    (hstage : submits[i]? = some (.sent formId payload))
    (answer : Except TransportError SubmitResponse)
    (hfinish : r.finishSubmit payload answer = some (task, r')) :
    ∃ outcome, task = .done (.submit outcome) ∧
      Reaches options timed r'.state loads (submits.set i (.ended outcome)) := by
  obtain ⟨⟨outcome, last⟩, hact, heq⟩ := Option.map_eq_some_iff.mp hfinish
  cases heq
  obtain ⟨rfl, hlast⟩ := (h.step (.answer i answer hstage) rfl).act_some hact
  have hfinished := List.getElem?_set_self (a := SubmitStage.finished
    (r.engine.finishSubmit payload answer).1) (List.getElem?_eq_some_iff.mp hstage).1
  have hleft := hlast.step (.leave i hfinished) rfl
  rw [List.set_set] at hleft
  exact ⟨_, rfl, hleft⟩

end Reaches

/-! ## Tasks -/

/-- Something that waits and has a place in the session. -/
inductive Wait where
  | load (number : Nat)
  | submit (payload : Payload)

/-- Two things can wait together: loads with different numbers, and only one submission. -/
def Wait.Apart : Wait → Wait → Prop
  | load j, load k => j ≠ k
  | submit _, submit _ => False
  | _, _ => True

end Session

namespace Task

mutual

/-- What a task waits for that has a place in the session. -/
def waits : Task → List Session.Wait
  | .fetching _ number _ => [.load number]
  | .submitting _ _ payload _ => [.submit payload]
  | .group tasks => waitsAll tasks
  | _ => []

/-- What several tasks wait for that has a place in the session. -/
def waitsAll : List Task → List Session.Wait
  | [] => []
  | task :: rest => waits task ++ waitsAll rest

end

mutual

/-- A task that has ended waits for nothing. -/
theorem waits_of_outcome? : (task : Task) → {outcome : Outcome} →
    task.outcome? = some outcome → task.waits = []
  | .done _, _, _ => rfl
  | .group tasks, _, h => by
    obtain ⟨outcomes, houtcomes, -⟩ := Option.map_eq_some_iff.mp h
    exact waitsAll_of_outcomes? tasks houtcomes
  | .waiting _, _, h => nomatch h
  | .delayed _ _, _, h => nomatch h
  | .fetching _ _ _, _, h => nomatch h
  | .submitting _ _ _ _, _, h => nomatch h

theorem waitsAll_of_outcomes? : (tasks : List Task) → {outcomes : List Outcome} →
    outcomes? tasks = some outcomes → waitsAll tasks = []
  | [], _, _ => rfl
  | task :: rest, _, h => by
    rw [outcomes?] at h
    split at h
    · rename_i outcome others hfirst hothers
      rw [waitsAll, waits_of_outcome? task hfirst, waitsAll_of_outcomes? rest hothers]
      rfl
    · cases h

end

end Task

namespace Session

/-- What waits in a rehearsal waits in the session, each at a place of its own. -/
structure Waits (loads : List LoadStage) (submits : List SubmitStage) (waits : List Wait) : Prop where
  apart : waits.Pairwise Wait.Apart
  load : ∀ number, .load number ∈ waits →
    ∃ (n : Nat) (formId : String), loads[n]? = some (.fetching number (.id formId))
  submit : ∀ payload, .submit payload ∈ waits →
    ∃ (i : Nat) (formId : String), submits[i]? = some (.sent formId payload)

variable {options : EngineOptions} {timed : Bool} {scene : Scene} {r r' : Rehearsal}
  {loads loads' : List LoadStage} {submits submits' : List SubmitStage} {waits waits' : List Wait}
  {events : List FormEvent} {e : Engine} {i n number : Nat} {formId : String} {payload : Payload}

namespace Waits

theorem apart_symm {a b : Wait} (h : a.Apart b) : b.Apart a := by
  cases a <;> cases b <;> first | exact h | exact Ne.symm h

/-- The order in which things wait plays no part. -/
theorem perm (h : Waits loads submits waits) (hperm : waits.Perm waits') :
    Waits loads submits waits' where
  apart := hperm.pairwise h.apart apart_symm
  load number hmem := h.load number (hperm.mem_iff.mpr hmem)
  submit payload hmem := h.submit payload (hperm.mem_iff.mpr hmem)

/-- What comes behind the places that are there disturbs nothing that waits. -/
theorem append_loads (h : Waits loads submits waits) (more : List LoadStage) :
    Waits (loads ++ more) submits waits where
  apart := h.apart
  load number hmem := by
    obtain ⟨n, formId, hstage⟩ := h.load number hmem
    refine ⟨n, formId, ?_⟩
    rw [List.getElem?_append_left (List.getElem?_eq_some_iff.mp hstage).1, hstage]
  submit := h.submit

theorem append_submits (h : Waits loads submits waits) (more : List SubmitStage) :
    Waits loads (submits ++ more) waits where
  apart := h.apart
  load := h.load
  submit payload hmem := by
    obtain ⟨i, formId, hstage⟩ := h.submit payload hmem
    refine ⟨i, formId, ?_⟩
    rw [List.getElem?_append_left (List.getElem?_eq_some_iff.mp hstage).1, hstage]

/-- The others wait on when a load comes to its end. -/
theorem end_load (h : Waits loads submits (.load number :: waits)) {source : FormSource}
    (hstage : loads[n]? = some (.fetching number source)) (stage : LoadStage) :
    Waits (loads.set n stage) submits waits where
  apart := (List.pairwise_cons.mp h.apart).2
  load other hmem := by
    obtain ⟨m, formId, hother⟩ := h.load other (List.mem_cons_of_mem _ hmem)
    have hne : number ≠ other := (List.pairwise_cons.mp h.apart).1 _ hmem
    have hplace : n ≠ m := by
      rintro rfl
      rw [hstage] at hother
      cases hother
      exact hne rfl
    exact ⟨m, formId, (List.getElem?_set_ne hplace).trans hother⟩
  submit payload hmem := h.submit payload (List.mem_cons_of_mem _ hmem)

/-- The others wait on when the submission comes to its end. -/
theorem end_submit (h : Waits loads submits (.submit payload :: waits)) (i : Nat)
    (stage : SubmitStage) : Waits loads (submits.set i stage) waits where
  apart := (List.pairwise_cons.mp h.apart).2
  load number hmem := h.load number (List.mem_cons_of_mem _ hmem)
  submit _ hmem := ((List.pairwise_cons.mp h.apart).1 _ hmem).elim

/-- A load that starts waits behind all others. -/
theorem start_load (h : Waits loads submits waits) (formId : String)
    (hnew : ∀ other, .load other ∈ waits → number ≠ other) :
    Waits (loads ++ [.fetching number (.id formId)]) submits (.load number :: waits) where
  apart := by
    refine List.pairwise_cons.mpr ⟨fun other hmem => ?_, h.apart⟩
    cases other with
    | load other => exact hnew other hmem
    | submit payload => trivial
  load other hmem := by
    rcases List.mem_cons.mp hmem with heq | hmem
    · cases heq
      exact ⟨loads.length, formId, List.getElem?_concat_length⟩
    · exact (h.append_loads _).load other hmem
  submit payload hmem := by
    rcases List.mem_cons.mp hmem with heq | hmem
    · cases heq
    · exact h.submit payload hmem

/-- A submission waits for its answer if no other one does. -/
theorem start_submit (h : Waits loads submits waits) (formId : String)
    (hnone : ∀ other, .submit other ∉ waits) :
    Waits loads (submits ++ [.sent formId payload]) (.submit payload :: waits) where
  apart := by
    refine List.pairwise_cons.mpr ⟨fun other hmem => ?_, h.apart⟩
    cases other with
    | load number => trivial
    | submit other => exact hnone other hmem
  load number hmem := by
    rcases List.mem_cons.mp hmem with heq | hmem
    · cases heq
    · exact h.load number hmem
  submit other hmem := by
    rcases List.mem_cons.mp hmem with heq | hmem
    · cases heq
      exact ⟨submits.length, formId, List.getElem?_concat_length⟩
    · exact absurd hmem (hnone other)

end Waits

/-- A scene is one that a session comes to, in which everything that waits has its place. -/
def Tracked (options : EngineOptions) (timed : Bool) (scene : Scene) (waits : List Wait) : Prop :=
  ∃ loads submits, Reaches options timed scene loads submits ∧ Waits loads submits waits

namespace Tracked

theorem perm (h : Tracked options timed scene waits) (hperm : waits.Perm waits') :
    Tracked options timed scene waits' := by
  obtain ⟨loads, submits, hreaches, hwaits⟩ := h
  exact ⟨loads, submits, hreaches, hwaits.perm hperm⟩

/-- A move that is about no load and no submission. -/
theorem step {move : Move} (h : Tracked options timed scene waits)
    (hstep : ∀ loads submits,
      Step ⟨scene.engine, loads, submits⟩ move events ⟨e, loads, submits⟩)
    (hsent : move.sent? = none) : Tracked options timed { scene with engine := e } waits := by
  obtain ⟨loads, submits, hreaches, hwaits⟩ := h
  exact ⟨loads, submits, hreaches.step (hstep loads submits) hsent, hwaits⟩

/-- Such a move with the dispatch that follows it. -/
theorem act {α : Type} {change : Engine → Option (α × List FormEvent × Engine)} {a : α}
    {move : Move} (h : Tracked options timed r.state waits)
    (hstep : ∀ events e loads submits, change r.engine = some (a, events, e) →
      Step ⟨r.engine, loads, submits⟩ move events ⟨e, loads, submits⟩)
    (hsent : move.sent? = none) (hact : r.act change = some (a, r')) :
    Tracked options timed r'.state waits := by
  obtain ⟨loads, submits, hreaches, hwaits⟩ := h
  obtain ⟨events, e, hchange, hkept⟩ := Reaches.act hact
  have hmoved := hreaches.step (hstep events e loads submits hchange) hsent
  exact ⟨loads, submits, hkept hmoved, hwaits⟩

/-- A load that begins waits, or has come to its end already. -/
theorem beginLoad {source : FormSource} {task : Task} (h : Tracked options timed r.state waits)
    (hbegin : r.beginLoad source = some (task, r')) :
    Tracked options timed r'.state (task.waits ++ waits) := by
  obtain ⟨loads, submits, hreaches, hwaits⟩ := h
  obtain ⟨⟨number, started⟩, hact, hrest⟩ := Option.bind_eq_some_iff.mp hbegin
  have hnumbered : Numbered ⟨r.engine, loads, submits⟩ := by
    obtain ⟨trace, hrun, -⟩ := hreaches
    exact hrun.numbered
  obtain ⟨rfl, hstarted⟩ := (hreaches.step (.startLoad source rfl) rfl).act_some hact
  have hnumber : r.engine.beginLoad.1 = r.engine.loads + 1 := by
    obtain ⟨_, heq, -⟩ := r.engine.exists_beginLoad
    rw [heq]
  have hstage : (loads ++ [LoadStage.fetching r.engine.beginLoad.1 source])[loads.length]? =
      some (.fetching r.engine.beginLoad.1 source) := List.getElem?_concat_length
  -- A load that has its answer at once comes to its end at its place behind the others.
  have hend (answer : Except TransportError FormDefinition)
      (hfinish : started.finishLoad r.engine.beginLoad.1 (source.arrived answer) =
        some (task, r')) : Tracked options timed r'.state (task.waits ++ waits) := by
    obtain ⟨outcome, rfl, hended⟩ := hstarted.finishLoad hstage answer hfinish
    rw [List.set_append_right _ _ (Nat.le_refl _)] at hended
    exact ⟨_, _, hended, hwaits.append_loads _⟩
  cases source with
  | definition d => exact hend (.error (.unavailable "")) hrest
  | id formId =>
    dsimp only at hrest
    split at hrest
    · exact hend _ hrest
    · cases hrest
      refine ⟨_, _, hstarted, hwaits.start_load formId fun other hmem => ?_⟩
      obtain ⟨n, otherId, hother⟩ := hwaits.load other hmem
      have hplace : n < loads.length := (List.getElem?_eq_some_iff.mp hother).1
      have hcount : r.engine.loads = loads.length := hnumbered.count
      have hearlier : other = n + 1 := hnumbered.number n other (.id otherId) hother
      show r.engine.beginLoad.1 ≠ other
      omega

/-- As long as the flag is free no submission waits. -/
theorem submit_not_mem (hreaches : Reaches options timed scene loads submits)
    (hwaits : Waits loads submits waits) (hfree : scene.engine.submitting = false)
    (payload : Payload) : .submit payload ∉ waits := by
  intro hmem
  obtain ⟨i, formId, hstage⟩ := hwaits.submit payload hmem
  obtain ⟨trace, hrun, -⟩ := hreaches
  have htaken : scene.engine.submitting = true := hrun.flagged.taken.mpr ⟨i, _, hstage, rfl⟩
  rw [hfree] at htaken
  cases htaken

/-- A submission that begins waits for its answer, or has come to its end already. -/
theorem beginSubmit {limit : Option Nat} {task : Task} (h : Tracked options timed r.state waits)
    (hbegin : r.beginSubmit limit = some (task, r')) :
    Tracked options timed r'.state (task.waits ++ waits) := by
  obtain ⟨loads, submits, hreaches, hwaits⟩ := h
  have hlast (stage : SubmitStage) : (submits ++ [stage])[submits.length]? = some stage :=
    List.getElem?_concat_length
  have hset (stage new : SubmitStage) :
      (submits ++ [stage]).set submits.length new = submits ++ [new] := by
    rw [List.set_append_right _ _ (Nat.le_refl _), Nat.sub_self]
    rfl
  unfold Rehearsal.beginSubmit at hbegin
  split at hbegin
  · -- Another submission has the flag.
    rename_i htaken
    cases hbegin
    exact ⟨_, _, hreaches.step (.skip rfl htaken) rfl, hwaits.append_submits _⟩
  · rename_i e hacquire
    obtain ⟨⟨prepared, mid⟩, hact, hrest⟩ := Option.bind_eq_some_iff.mp hbegin
    have hentered := hreaches.step (.enter rfl hacquire) rfl
    have hnone := submit_not_mem hreaches hwaits (Engine.acquire_eq_some.mp hacquire).1
    cases hbegun : e.beginSubmit.1 with
    | error outcome =>
      obtain ⟨hprepared, hmid⟩ := (hentered.step (.refuse _ (hlast _) hbegun) rfl).act_some hact
      obtain rfl : prepared = .error outcome := hprepared.trans hbegun
      cases hrest
      have hleft := hmid.step (.leave _ (hset _ _ ▸ hlast _)) rfl
      rw [hset, hset] at hleft
      exact ⟨_, _, hleft, hwaits.append_submits _⟩
    | ok begun =>
      obtain ⟨formId, payload⟩ := begun
      obtain ⟨hprepared, hmid⟩ := (hentered.step (.prepare _ (hlast _) hbegun) rfl).act_some hact
      obtain rfl : prepared = .ok (formId, payload) := hprepared.trans hbegun
      have hsent := hmid.send (hset _ _ ▸ hlast _)
      rw [hset, hset] at hsent
      dsimp only at hrest
      split at hrest
      · obtain ⟨outcome, rfl, hended⟩ := Reaches.finishSubmit
          (r := { mid with state := _ }) hsent (hlast _) _ hrest
        rw [hset] at hended
        exact ⟨_, _, hended, hwaits.append_submits _⟩
      · split at hrest
        · cases hrest
          have hdropped := hsent.step (.drop _ (hlast _) rfl) rfl
          rw [hset] at hdropped
          exact ⟨_, _, hdropped, hwaits.append_submits _⟩
        · cases hrest
          exact ⟨_, _, hsent, hwaits.start_submit formId hnone⟩

end Tracked

end Session

namespace Rehearsal

open Session

variable {options : EngineOptions} {timed : Bool} {r r' : Rehearsal}

theorem state_dismiss (r : Rehearsal) (n : Nat) : (r.dismiss n).2.state = r.state := by
  unfold dismiss
  split <;> rfl

mutual

/-- A step that begins goes through moves of the session. -/
theorem begin_tracked : (step : LiveForm.Step) → {r r' : Rehearsal} → {task : Task} →
    {waits : List Wait} → Tracked options timed r.state waits →
    step.begin r = some (task, r') → Tracked options timed r'.state (task.waits ++ waits)
  | .call c, r, r', task, waits, h, hbegin => by
    obtain ⟨⟨valid, last⟩, hact, heq⟩ := Option.map_eq_some_iff.mp hbegin
    have hlast := h.act (fun _ _ _ _ hobey => .call hobey) rfl hact
    dsimp only at heq
    split at heq
    · cases heq
      exact hlast
    · cases heq
      exact hlast
  | .load source, _, _, _, _, h, hbegin => h.beginLoad hbegin
  | .submit limit, _, _, _, _, h, hbegin => h.beginSubmit hbegin
  | .wait time, r, r', task, waits, h, hbegin => by
    rw [LiveForm.Step.begin] at hbegin
    split at hbegin
    · cases hbegin
      exact h
    · cases hbegin
      exact h
  | .attachRenderer, _, _, _, _, h, hbegin => by
    cases hbegin
    exact h.step (fun _ _ => .attachRenderer) rfl
  | .addRule name rule, _, _, _, _, h, hbegin => by
    cases hbegin
    exact h.step (fun _ _ => .addRule name rule) rfl
  | .addWidget kind widget, _, _, _, _, h, hbegin => by
    cases hbegin
    exact h.step (fun _ _ => .addWidget kind widget) rfl
  | .listen kind limit act, _, _, _, _, h, hbegin => by
    cases hbegin
    exact h
  | .dismiss listener, r, _, _, _, h, hbegin => by
    cases hbegin
    exact (state_dismiss r listener).symm ▸ h
  | .ask query, _, _, _, _, h, hbegin => by
    cases hbegin
    exact h
  | .after delay step, r, r', task, waits, h, hbegin => by
    rw [LiveForm.Step.begin] at hbegin
    split at hbegin
    · exact begin_tracked step h hbegin
    · cases hbegin
      exact h
  | .join steps, r, r', task, waits, h, hbegin => by
    obtain ⟨⟨tasks, last⟩, hall, heq⟩ := Option.map_eq_some_iff.mp hbegin
    cases heq
    exact beginAll_tracked steps h hall

/-- Steps that begin one after the other go through moves of the session. -/
theorem beginAll_tracked : (steps : List LiveForm.Step) → {r r' : Rehearsal} →
    {tasks : List Task} → {waits : List Wait} → Tracked options timed r.state waits →
    LiveForm.Step.beginAll r steps = some (tasks, r') →
    Tracked options timed r'.state (Task.waitsAll tasks ++ waits)
  | [], _, _, _, _, h, hbegin => by
    cases hbegin
    exact h
  | step :: rest, r, r', tasks, waits, h, hbegin => by
    obtain ⟨⟨task, mid⟩, hfirst, hrest⟩ := Option.bind_eq_some_iff.mp hbegin
    obtain ⟨⟨others, last⟩, hothers, heq⟩ := Option.map_eq_some_iff.mp hrest
    cases heq
    have hall := beginAll_tracked rest (begin_tracked step h hfirst) hothers
    rw [← List.append_assoc] at hall
    exact hall.perm (List.perm_append_comm.append_right waits)

end

mutual

/-- A task that goes on goes through moves of the session, and disturbs nothing else that waits. -/
theorem resume_tracked : (task : Task) → {r r' : Rehearsal} → {task' : Task} →
    {waits : List Wait} → Tracked options timed r.state (task.waits ++ waits) →
    task.resume r = some (task', r') → Tracked options timed r'.state (task'.waits ++ waits)
  | .done outcome, _, _, _, _, h, hresume => by
    cases hresume
    exact h
  | .waiting wake, r, r', task', waits, h, hresume => by
    rw [Task.resume] at hresume
    split at hresume
    · cases hresume
      exact h
    · cases hresume
      exact h
  | .delayed wake step, r, r', task', waits, h, hresume => by
    rw [Task.resume] at hresume
    split at hresume
    · exact begin_tracked step h hresume
    · cases hresume
      exact h
  | .fetching wake number arrives, r, r', task', waits, h, hresume => by
    rw [Task.resume] at hresume
    split at hresume
    · obtain ⟨loads, submits, hreaches, hwaits⟩ := h
      obtain ⟨n, formId, hstage⟩ := hwaits.load number List.mem_cons_self
      obtain ⟨outcome, rfl, hended⟩ := hreaches.finishLoad hstage arrives hresume
      exact ⟨_, _, hended, hwaits.end_load hstage _⟩
    · cases hresume
      exact h
  | .submitting wake limit payload answer, r, r', task', waits, h, hresume => by
    rw [Task.resume] at hresume
    split at hresume
    · obtain ⟨loads, submits, hreaches, hwaits⟩ := h
      obtain ⟨i, formId, hstage⟩ := hwaits.submit payload List.mem_cons_self
      obtain ⟨outcome, rfl, hended⟩ := hreaches.finishSubmit hstage answer hresume
      exact ⟨_, _, hended, hwaits.end_submit i _⟩
    · split at hresume
      · obtain ⟨loads, submits, hreaches, hwaits⟩ := h
        obtain ⟨i, formId, hstage⟩ := hwaits.submit payload List.mem_cons_self
        cases hresume
        exact ⟨_, _, hreaches.step (.drop i hstage rfl) rfl, hwaits.end_submit i _⟩
      · cases hresume
        exact h
  | .group tasks, r, r', task', waits, h, hresume => by
    obtain ⟨⟨others, last⟩, hall, heq⟩ := Option.map_eq_some_iff.mp hresume
    cases heq
    exact resumeAll_tracked tasks h hall

/-- Tasks that go on one after the other go through moves of the session. -/
theorem resumeAll_tracked : (tasks : List Task) → {r r' : Rehearsal} → {tasks' : List Task} →
    {waits : List Wait} → Tracked options timed r.state (Task.waitsAll tasks ++ waits) →
    Task.resumeAll r tasks = some (tasks', r') →
    Tracked options timed r'.state (Task.waitsAll tasks' ++ waits)
  | [], _, _, _, _, h, hresume => by
    cases hresume
    exact h
  | task :: rest, r, r', tasks', waits, h, hresume => by
    obtain ⟨⟨task', mid⟩, hfirst, hrest⟩ := Option.bind_eq_some_iff.mp hresume
    obtain ⟨⟨others, last⟩, hothers, heq⟩ := Option.map_eq_some_iff.mp hrest
    cases heq
    rw [Task.waitsAll, List.append_assoc] at h
    have hmid := (resume_tracked task h hfirst).perm List.perm_append_comm
    rw [List.append_assoc] at hmid
    have hall := resumeAll_tracked rest
      (hmid.perm (List.perm_append_comm.append_left (Task.waitsAll rest))) hothers
    rw [← List.append_assoc] at hall
    exact hall.perm (List.perm_append_comm.append_right waits)

end

/-! ## Time -/

/-- Messages that go away are moves of the session. -/
theorem expireAll_tracked {waits : List Wait} (ids : List Nat) {r r' : Rehearsal}
    (h : Tracked options timed r.state waits) (hexpire : expireAll ids r = some r') :
    Tracked options timed r'.state waits := by
  induction ids generalizing r with
  | nil =>
    cases hexpire
    exact h
  | cons id rest ih =>
    obtain ⟨⟨_, mid⟩, hact, hrest⟩ := Option.bind_eq_some_iff.mp hexpire
    have hkept : Tracked options timed
        { r.state with deadlines := r.state.deadlines.filter fun d => d.1 != id } waits := h
    have hexpired (events : List FormEvent) (e : Engine) (loads : List LoadStage)
        (submits : List SubmitStage) (hchange : some ((), r.engine.expire id) = some ((), events, e)) :
        Session.Step ⟨r.engine, loads, submits⟩ (.expire id) events ⟨e, loads, submits⟩ := by
      have hstep : Session.Step ⟨r.engine, loads, submits⟩ (.expire id) (r.engine.expire id).1
          ⟨(r.engine.expire id).2, loads, submits⟩ := .expire id
      rwa [show r.engine.expire id = _ from congrArg Prod.snd (Option.some.inj hchange)] at hstep
    exact ih (Tracked.act (r := ⟨r.bus, _⟩) hkept hexpired rfl hact) hrest

theorem expireDue_tracked {waits : List Wait} (h : Tracked options timed r.state waits)
    (hexpire : r.expireDue = some r') : Tracked options timed r'.state waits :=
  expireAll_tracked _ (r := r.setDeadlines) h hexpire

/-- A task that is awaited goes through moves of the session, and leaves nothing that waits. -/
theorem await_tracked (fuel : Nat) {task : Task} {r r' : Rehearsal} {outcome : Outcome}
    (h : Tracked options timed r.state task.waits)
    (hawait : await fuel task r = some (outcome, r')) : Tracked options timed r'.state [] := by
  induction fuel generalizing task r with
  | zero => cases hawait
  | succ fuel ih =>
    obtain ⟨now, hexpire, hrest⟩ := Option.bind_eq_some_iff.mp hawait
    have hnow := expireDue_tracked h hexpire
    split at hrest
    · rename_i ended houtcome
      cases hrest
      rwa [Task.waits_of_outcome? task houtcome] at hnow
    · obtain ⟨next, -, hrest⟩ := Option.bind_eq_some_iff.mp hrest
      obtain ⟨⟨later, mid⟩, hresume, hlast⟩ := Option.bind_eq_some_iff.mp hrest
      rw [← List.append_nil task.waits] at hnow
      have hmid := resume_tracked task
        (r := { now with state := { now.state with now := next } }) hnow hresume
      rw [List.append_nil] at hmid
      exact ih hmid hlast

/-- A rehearsal that starts with a new engine is at the start of a session. -/
theorem ofScene_tracked (counterpart : Counterpart) (hsent : counterpart.sent = []) :
    Tracked options timed
      (ofScene { engine := { options := options, timed := timed }, counterpart }).state [] := by
  refine ⟨[], [], ⟨[], .rest, hsent.symm⟩, ?_⟩
  exact ⟨.nil, nofun, nofun⟩

/-- Whatever is played in a rehearsal, its engine comes to where a session comes to, and what the
session sent is what the other side noted. -/
theorem play_tracked {step : LiveForm.Step} {outcome : Outcome}
    (h : Tracked options timed r.state []) (hplay : r.play step = some (outcome, r')) :
    Tracked options timed r'.state [] := by
  obtain ⟨⟨task, mid⟩, hbegin, hawait⟩ := Option.bind_eq_some_iff.mp hplay
  have hmid := begin_tracked step h hbegin
  rw [List.append_nil] at hmid
  exact await_tracked _ hmid hawait

theorem plays_tracked (steps : List LiveForm.Step) {r r' : Rehearsal}
    (h : Tracked options timed r.state [])
    (hplays : steps.foldlM (fun r step => (r.play step).map Prod.snd) r = some r') :
    Tracked options timed r'.state [] := by
  induction steps generalizing r with
  | nil =>
    cases hplays
    exact h
  | cons step rest ih =>
    rw [List.foldlM_cons] at hplays
    obtain ⟨mid, hfirst, hrest⟩ := Option.bind_eq_some_iff.mp hplays
    obtain ⟨⟨outcome, _⟩, hplay, rfl⟩ := Option.map_eq_some_iff.mp hfirst
    exact ih (play_tracked h hplay) hrest

/-- After any steps that are played on a new engine there is a run of a session to the engine, and
the run sent what the other side noted. -/
theorem exists_run {steps : List LiveForm.Step} {counterpart : Counterpart}
    (hsent : counterpart.sent = [])
    (hplays : steps.foldlM (fun r step => (r.play step).map Prod.snd)
      (ofScene { engine := { options := options, timed := timed }, counterpart }) = some r) :
    ∃ trace loads submits, Run (.fresh options timed) trace ⟨r.engine, loads, submits⟩ ∧
      sends trace = r.state.counterpart.sent := by
  obtain ⟨loads, submits, ⟨trace, hrun, hsends⟩, -⟩ :=
    plays_tracked steps (ofScene_tracked counterpart hsent) hplays
  exact ⟨trace, loads, submits, hrun, hsends⟩

end Rehearsal

end LiveForm
