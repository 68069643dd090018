import LiveForm.Proofs.Engine.Chronicle
import LiveForm.Proofs.Session.Status
import LiveForm.Proofs.Session.Telling

/-!
# The order of events along a run

Between two moves both queues of an engine are empty. Each move but the expiry of a message, which
is told without being queued, is a change with a chronicle, and tells of exactly what is queued in
its course, in that order (`Step.chronicled`). Along a run the changes of the status that were told,
and behind them those that wait in the middle of a change, lead from `idle` to the status as it is.
-/

namespace LiveForm.Session

variable {options : EngineOptions} {timed : Bool} {start s next : Session} {move : Move}
  {events : List FormEvent} {trace : List Turn}

/-- A move that lets no message go away makes a change with a chronicle, and leaves the queues
taken. -/
theorem Step.chronicled (h : Step s move events next) (hsettled : s.engine.Settled)
    (hmove : ∀ id, move ≠ .expire id) :
    ∃ changed, s.engine.Chronicled changed ∧ (events, next.engine) = changed.drain := by
  -- A move that queues nothing leaves the engine settled, as it was.
  have hquiet (hevents : events = []) (hnext : s.engine.Chronicled next.engine) :
      ∃ changed, s.engine.Chronicled changed ∧ (events, next.engine) = changed.drain :=
    ⟨next.engine, hnext, by rw [(h.settled hsettled).drain_eq, hevents]⟩
  cases h with
  | call hobey =>
    obtain ⟨done, hdone, rfl, rfl⟩ := Engine.obey_eq_some_iff.mp hobey
    exact ⟨done, Engine.chronicled_perform hdone, rfl⟩
  | expire message => exact absurd rfl (hmove message)
  | startLoad source hn => exact s.engine.exists_chronicled_beginLoad
  | finishLoad n answer hstage hfinish => exact Engine.exists_chronicled_finishLoad hfinish
  | prepare i hstage hbegin => exact ⟨_, s.engine.chronicled_prepare, rfl⟩
  | refuse i hstage hbegin => exact ⟨_, s.engine.chronicled_prepare, rfl⟩
  | answer i answer hstage => exact s.engine.exists_chronicled_finishSubmit _ answer
  | enter hi hflag =>
    refine hquiet rfl ?_
    rw [(Engine.acquire_eq_some.mp hflag).2]
    exact Engine.chronicled_elsewhere rfl rfl rfl
  | _ => exact hquiet rfl (Engine.chronicled_elsewhere rfl rfl rfl)

/-- The changes of the status that were told lead from the first status to the last one. -/
theorem Run.chain (hrun : Run start trace s) (hsettled : start.engine.Settled) :
    start.engine.status.Chain (statusChanges (Session.told trace)) s.engine.status := by
  induction hrun with
  | rest => rfl
  | @turn trace s next move events hrun hstep ih =>
    have hbefore : s.engine.Settled := hrun.keeps (fun _ _ _ _ hs h => h.settled hs) hsettled
    rw [told_concat, statusChanges_append, hstep.statusChanges_eq hbefore]
    exact ih.append (FormStatus.chain_set _ _)

/-- Nothing waits in either queue before and after a change, and what a change gives out are the
events that are queued in its course, by the state or by the engine, in that order. This is so of
any calls that are made in the course of a change that comes to its end, and every move makes such a
change, but for messages that go away. The changes of the status that were queued so far, also in the middle of a
change, lead one from the other from `idle` to the status as it is. -/
theorem Run.queued_in_order (hrun : Run (.fresh options timed) trace s) :
    (s.engine.outbox = [] ∧ s.engine.state.pending = []) ∧
    (∀ (α : Type) (e : Engine) (change : Engine → α × Engine) calls queued,
      e.Chronicle calls queued (change e).2 →
      (e.update change).2.1 = e.outbox ++ e.state.pending ++ queued ∧
        (e.update change).2.2.outbox = [] ∧ (e.update change).2.2.state.pending = []) ∧
    (∀ (α : Type) (e e' : Engine) (change : Engine → Option (α × Engine)) answer calls queued,
      change e = some (answer, e') → e.Chronicle calls queued e' →
      e.update? change = some (answer, e.outbox ++ e.state.pending ++ queued, e'.drain.2) ∧
        e'.drain.2.outbox = [] ∧ e'.drain.2.state.pending = []) ∧
    (∀ move events next, Step s move events next → (∀ id, move ≠ .expire id) →
      ∃ calls changed, s.engine.Chronicle calls events changed ∧ (∀ c ∈ calls, c.Plain) ∧
        next.engine = changed.drain.2) ∧
    ∀ calls queued e, s.engine.Chronicle calls queued e → (∀ c ∈ calls, c.Plain) →
      FormStatus.idle.Chain (statusChanges (Session.told trace ++ queued)) e.status := by
  have hsettled := hrun.settled
  refine ⟨List.append_eq_nil_iff.mp hsettled, fun _ _ _ _ _ h => h.update,
    fun _ _ _ _ _ _ _ hchange h => h.update? hchange, ?_, ?_⟩
  · intro move events next hstep hmove
    obtain ⟨changed, ⟨calls, queued, hchronicle, hplain⟩, heq⟩ := hstep.chronicled hsettled hmove
    have hqueued : queued = events := by
      rw [show events = changed.drain.1 from congrArg Prod.fst heq, hchronicle.drain_eq,
        show s.engine.drain.1 = [] from hsettled, List.nil_append]
    exact ⟨calls, changed, hqueued ▸ hchronicle, hplain, congrArg Prod.snd heq⟩
  · intro calls queued e hchronicle hplain
    rw [statusChanges_append]
    exact (hrun.chain rfl).append (hchronicle.chain hplain)

/-- A value is put in, the form goes to `submitting`, where it stays, and an error is stored before
the view is said to be drawn. -/
def interplay : List QueueCall :=
  [.state (.setValue "text" (.str "a")), .setStatus .submitting, .setStatus .submitting,
    .state (.setError "text" (some "Too short")), .push .formRendered]

/-- In the note form the events of such a change come in the order of its calls. -/
theorem queued_in_order_noteForm :
    ∃ trace changed, Run (.fresh {} true) trace (loadedWith {} noteForm) ∧
      ((loadedWith {} noteForm).engine.update? fun e =>
          (interplay.foldlM QueueCall.after e).map fun e => ((), e)) =
        some ((), [.fieldChange "text" (.str "a") (.obj [("text", .str "a")]),
          .statusChange .ready .submitting,
          .errorChange "text" (some "Too short") [("text", "Too short")], .formRendered], changed) ∧
      changed.outbox = [] ∧ changed.state.pending = [] ∧
      FormStatus.idle.Chain [(.idle, .loading), (.loading, .ready), (.ready, .submitting)]
        .submitting := by
  have hstarted := (Run.rest : Run (.fresh {} true) [] _).turn
    (.startLoad (.definition noteForm) rfl)
  have hrun := hstarted.turn (step_arriving 0 (.error (.unavailable "")) rfl rfl)
  obtain ⟨-, -, hupdate, -, hchain⟩ := hrun.queued_in_order
  have hplain : ∀ c ∈ interplay, c.Plain := by
    simp [interplay, QueueCall.Plain, FormEvent.statusChange?]
  obtain ⟨queued, e, hchange, hchronicle, hstatus, hqueued⟩ : ∃ queued e,
      interplay.foldlM QueueCall.after (loadedWith {} noteForm).engine = some e ∧
      (loadedWith {} noteForm).engine.Chronicle interplay queued e ∧ e.status = .submitting ∧
      queued = [.fieldChange "text" (.str "a") (.obj [("text", .str "a")]),
          .statusChange .ready .submitting,
          .errorChange "text" (some "Too short") [("text", "Too short")], .formRendered] := by
    have hstart : (loadedWith {} noteForm).engine.Chronicle [] [] _ := .start
    have hfilled := hstart.call (.state (.setValue "text" (.str "a"))) rfl
    have hmoved := (hfilled.call (.setStatus .submitting) rfl).call (.setStatus .submitting) rfl
    have hstored := (hmoved.call (.state (.setError "text" (some "Too short"))) rfl).call
      (.push .formRendered) rfl
    exact ⟨_, _, rfl, hstored, rfl, rfl⟩
  subst hqueued
  obtain ⟨htold, houtbox, hpending⟩ := hupdate Unit _ e
    (fun e => (interplay.foldlM QueueCall.after e).map fun e => ((), e)) () _ _
    (congrArg (Option.map fun e => ((), e)) hchange) hchronicle
  have hlast := hchain _ _ _ hchronicle hplain
  rw [hstatus] at hlast
  exact ⟨_, _, hrun, htold, houtbox, hpending, hlast⟩

end LiveForm.Session
