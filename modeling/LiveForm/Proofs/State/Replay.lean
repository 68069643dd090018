import LiveForm.Proofs.Engine.Calls
import LiveForm.Proofs.Engine.Findings
import LiveForm.Proofs.Engine.Queue
import LiveForm.Proofs.Json.Access

/-!
# The events of a state replayed

A state queues an event for whatever it changes of its data and errors. Whoever has the events, those
that were drained and those that still wait, can make the changes again (`Replica.follow`), and gets
the data and the errors as they are. Along the way every event that describes the data or the errors
describes them as they were made again so far, however many events were queued in between and
wherever they were drained.

Calls are made one after the other (`FormState.Reached`), none of which stops the program. What one
of them adds to the log is one event at most (`FormState.Logged.tell`), and the log of all calls is
built from those.
-/

namespace LiveForm

/-! ## Following events -/

/-- What is made again from events: the data and the errors. -/
structure Replica where
  data : Json
  errors : Errors := []

namespace Replica

/-- Make again the change that an event tells of. -/
def follow (r : Replica) : FormEvent → Replica
  | .fieldChange name value _ => { r with data := r.data.set name value }
  | .errorChange name error _ =>
    { r with
      errors :=
        match error with
        | some m => Keyed.insert r.errors name m
        | none => Keyed.erase r.errors name }
  | .errorsCleared => { r with errors := [] }
  | .formReset => { data := .obj [] }
  | _ => r

/-- Make again the changes that events tell of, in their order. -/
def replay (r : Replica) (events : List FormEvent) : Replica := events.foldl follow r

/-- What an event says of the data and the errors is so once it is followed. A value that changed can
be put into the data, and is read where it was put. -/
def Agrees (r : Replica) (event : FormEvent) : Prop :=
  match event with
  | .fieldChange name value data =>
    data = (r.follow event).data ∧ r.data.set? name value = some data ∧
      data.get? name = some value
  | .errorChange _ _ errors => errors = (r.follow event).errors
  | _ => True

/-- Each event agrees with what those before it lead to. -/
def Faithful (r : Replica) (events : List FormEvent) : Prop :=
  ∀ before event after, events = before ++ event :: after → (r.replay before).Agrees event

variable {r : Replica} {events : List FormEvent} {event : FormEvent}

theorem replay_concat (r : Replica) (events : List FormEvent) (event : FormEvent) :
    r.replay (events ++ [event]) = (r.replay events).follow event :=
  List.foldl_concat ..

theorem Faithful.concat (h : r.Faithful events) (hagrees : (r.replay events).Agrees event) :
    r.Faithful (events ++ [event]) := by
  intro before other after hsplit
  rcases List.eq_nil_or_concat' after with rfl | ⟨between, last, rfl⟩
  · obtain ⟨rfl, hsame⟩ := List.append_inj' hsplit rfl
    obtain rfl := List.singleton_injective hsame
    exact hagrees
  · rw [← List.cons_append, ← List.append_assoc] at hsplit
    exact h before other between (List.append_inj_left' hsplit rfl)

end Replica

/-! ## Calls -/

namespace FormState

/-- The data and the errors of a state. -/
def replica (s : FormState) : Replica := ⟨s.data, s.errors⟩

/-- Calls are made one after the other on a state with initial data. The events that are drained
meanwhile are collected. -/
inductive Reached (initial : Keyed Json) : List FormEvent → FormState → Prop
  | start : Reached initial [] (.ofData initial)
  | setValue {drained : List FormEvent} {s s' : FormState} (name : String) (value : Json)
      (hbefore : Reached initial drained s) (hput : s.setValue name value = some s') :
      Reached initial drained s'
  | setError {drained : List FormEvent} {s : FormState} (name : String) (error : Option String)
      (hbefore : Reached initial drained s) : Reached initial drained (s.setError name error)
  | clearErrors {drained : List FormEvent} {s : FormState} (hbefore : Reached initial drained s) :
      Reached initial drained s.clearErrors
  | touch {drained : List FormEvent} {s : FormState} (name : String)
      (hbefore : Reached initial drained s) : Reached initial drained (s.touch name)
  | reset {drained : List FormEvent} {s : FormState} (hbefore : Reached initial drained s) :
      Reached initial drained s.reset
  | drain {drained : List FormEvent} {s : FormState} (hbefore : Reached initial drained s) :
      Reached initial (drained ++ s.drain.1) s.drain.2

/-- The events that were drained and those that wait lead to what the state holds. -/
structure Logged (start : Replica) (drained : List FormEvent) (s : FormState) : Prop where
  replayed : start.replay (drained ++ s.pending) = s.replica
  faithful : start.Faithful (drained ++ s.pending)
  object : s.data.IsObject
  spoken : ∀ entry ∈ s.errors, entry.2 ≠ ""

namespace Logged

variable {start : Replica} {drained : List FormEvent} {s s' : FormState} {event : FormEvent}

/-- One more event tells of one more change. -/
theorem tell (h : s.Logged start drained) (hqueued : s'.pending = s.pending ++ [event])
    (hfollowed : s.replica.follow event = s'.replica) (hagrees : s.replica.Agrees event)
    (hobject : s'.data.IsObject) (hspoken : ∀ entry ∈ s'.errors, entry.2 ≠ "") :
    s'.Logged start drained := by
  have hlog : drained ++ s'.pending = drained ++ s.pending ++ [event] := by
    rw [hqueued, List.append_assoc]
  have hreplayed : start.replay (drained ++ s.pending ++ [event]) = s'.replica := by
    rw [Replica.replay_concat, h.replayed, hfollowed]
  refine ⟨hlog ▸ hreplayed, ?_, hobject, hspoken⟩
  rw [hlog]
  exact h.faithful.concat (h.replayed ▸ hagrees)

theorem setValue {name : String} {value : Json} (h : s.Logged start drained)
    (hput : s.setValue name value = some s') : s'.Logged start drained := by
  obtain ⟨data, hdata, rfl⟩ := setValue_eq_some_iff.mp hput
  obtain ⟨hroom, rfl⟩ := Json.set?_eq_some_iff.mp hdata
  refine h.tell (s.pending_changed name value _) ?_ ?_ ?_ ?_
  · rw [replica, replica, data_changed, errors_changed]
    rfl
  · exact ⟨rfl, hdata, Json.get?_set_self s.data name value⟩
  · rw [data_changed]
    exact Json.isObject_set h.object name value
  · rw [errors_changed]
    exact h.spoken

theorem setError (h : s.Logged start drained) (name : String) (error : Option String) :
    (s.setError name error).Logged start drained := by
  refine h.tell rfl rfl rfl h.object fun entry hentry => ?_
  rcases mem_errors_setError hentry with ⟨-, hspoken⟩ | hbefore
  · exact hspoken
  · exact h.spoken entry hbefore

theorem touch (h : s.Logged start drained) (name : String) :
    (s.touch name).Logged start drained := by
  have hsame : (s.touch name).replica = s.replica := by
    rw [replica, data_touch, errors_touch]
    rfl
  refine ⟨?_, ?_, ?_, ?_⟩
  · rw [pending_touch, hsame, h.replayed]
  · rw [pending_touch]
    exact h.faithful
  · rw [data_touch]
    exact h.object
  · rw [errors_touch]
    exact h.spoken

/-- Draining moves events from one end of the log to the other. -/
theorem drain (h : s.Logged start drained) : s.drain.2.Logged start (drained ++ s.drain.1) := by
  have hlog : drained ++ s.drain.1 ++ s.drain.2.pending = drained ++ s.pending :=
    List.append_nil _
  refine ⟨?_, ?_, h.object, h.spoken⟩
  · rw [hlog]
    exact h.replayed
  · rw [hlog]
    exact h.faithful

end Logged

/-- Whatever calls are made on a state, the events that were drained and those that wait, followed
from the initial data on and no errors, lead to the data and the errors as they are. Every change of
a value describes the data at its place among the events, with the value at its name, and every
change of an error the errors. The data are an object and no error is empty. A default that is put in
changes the data alone, which stay an object, and tells nothing. -/
theorem Reached.logged {initial : Keyed Json} {drained : List FormEvent} {s : FormState}
    (h : Reached initial drained s) :
    s.Logged { data := .obj initial } drained ∧
    ∀ name value put s', s.seed name value = some (put, s') →
      s' = { s with data := s'.data } ∧ s'.data.IsObject := by
  have hlogged : s.Logged { data := .obj initial } drained := by
    induction h with
    | start =>
      refine ⟨rfl, ?_, ⟨initial, rfl⟩, nofun⟩
      intro before event after hsplit
      cases List.append_ne_nil_of_right_ne_nil before (List.cons_ne_nil event after) hsplit.symm
    | setValue name value _ hput ih => exact ih.setValue hput
    | setError name error _ ih => exact ih.setError name error
    | clearErrors _ ih => exact ih.tell rfl rfl trivial ih.object nofun
    | touch name _ ih => exact ih.touch name
    | reset _ ih => exact ih.tell rfl rfl trivial ⟨[], rfl⟩ nofun
    | drain _ ih => exact ih.drain
  refine ⟨hlogged, fun name value put s' hseed => ?_⟩
  rcases seed_cases hseed with ⟨-, -, rfl⟩ | ⟨-, -, data, hdata, rfl⟩
  · exact ⟨rfl, hlogged.object⟩
  · obtain ⟨-, rfl⟩ := Json.set?_eq_some_iff.mp hdata
    exact ⟨rfl, Json.isObject_set hlogged.object name value⟩

/-- A list gets an item behind a gap and an error, the events are drained, and an empty message takes
the error away. The item is told with the gap, and the error that went with no errors left. -/
theorem logged_tags :
    ∃ drained s, Reached [("tags", .arr [.str "a"])] drained s ∧
      s.Logged { data := .obj [("tags", .arr [.str "a"])] } drained ∧
      s.data = .obj [("tags", .arr [.str "a", .null, .str "c"])] ∧ s.errors = [] ∧
      drained = [.fieldChange "tags.2" (.str "c") s.data,
        .errorChange "tags" (some "Too many") [("tags", "Too many")]] ∧
      s.pending = [.errorChange "tags" none []] := by
  have hstart : Reached [("tags", .arr [.str "a"])] [] (.ofData [("tags", .arr [.str "a"])]) :=
    .start
  have hput := hstart.setValue "tags.2" (.str "c") rfl
  have hdrained := (hput.setError "tags" (some "Too many")).drain
  have hreached := (hdrained.setError "tags" (some "")).touch "tags"
  obtain ⟨hlogged, -⟩ := hreached.logged
  exact ⟨_, _, hreached, hlogged, by decide, by decide, by decide, by decide⟩

end FormState

end LiveForm
