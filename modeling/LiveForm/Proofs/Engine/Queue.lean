import LiveForm.Proofs.Engine.Progress

/-!
# What an operation queues

`e.drain.1` are the events that wait, those of the engine before those of its state. Each operation
adds its events behind them, in the order in which things happened: a change of the status, a
message, the fields that are shown or hidden. The laws give the added events in full.
-/

namespace LiveForm

namespace FormEvent

/-- Of events of one kind all are of a kind that is wanted, or none. -/
theorem filter_kind {events : List FormEvent} {kind : EventKind}
    (h : ∀ event ∈ events, event.kind = kind) (wanted : EventKind) :
    events.filter (fun event => event.kind = wanted) = if kind = wanted then events else [] := by
  split
  · rename_i hsame
    apply List.filter_eq_self.mpr
    intro event hevent
    exact decide_eq_true ((h event hevent).trans hsame)
  · rename_i hother
    apply List.filter_eq_nil_iff.mpr
    intro event hevent hwanted
    exact hother ((h event hevent).symm.trans (of_decide_eq_true hwanted))

theorem kind_of_mem_flips {flipped : Keyed Bool} {event : FormEvent}
    (h : event ∈ flipped.map fun entry => visibilityChange entry.1 entry.2) :
    event.kind = .visibilityChange := by
  obtain ⟨entry, -, rfl⟩ := List.mem_map.mp h
  rfl

end FormEvent

theorem FormState.pending_setValue {s s' : FormState} {name : String} {value : Json}
    (h : s.setValue name value = some s') :
    s'.pending = s.pending ++ [.fieldChange name value (s.data.set name value)] := by
  obtain ⟨data, hdata, rfl⟩ := setValue_eq_some_iff.mp h
  rw [pending_changed, (Json.set?_eq_some_iff.mp hdata).2]

namespace Engine

/-- The fields that a new map shows or hides, with what they are from now on. -/
def flips (e : Engine) : List FormEvent :=
  (e.currentVisibility.filter fun entry => e.isVisible entry.1 != entry.2).map fun entry =>
    .visibilityChange entry.1 entry.2

theorem drain_foldl_push {α : Type} (f : α → FormEvent) (xs : List α) (e : Engine) :
    (xs.foldl (fun e x => e.push (f x)) e).drain.1 = e.drain.1 ++ xs.map f := by
  induction xs generalizing e with
  | nil => simp
  | cons x xs ih => simp [ih, drain_push]

@[simp] theorem drain_rebuild (e : Engine) : e.rebuild.drain.1 = e.drain.1 := rfl

@[simp] theorem drain_clearMessage (e : Engine) : e.clearMessage.drain.1 = e.drain.1 := by
  unfold clearMessage; split <;> rfl

/-- A status is told only if it is another one. -/
theorem drain_setStatus (e : Engine) (status : FormStatus) :
    (e.setStatus status).drain.1 =
      e.drain.1 ++ if e.status = status then [] else [.statusChange e.status status] := by
  unfold setStatus
  split
  · simp
  · exact drain_push _ _

theorem drain_showMessage (e : Engine) (text : String) (kind : MessageKind) :
    (e.showMessage text kind).drain.1 = e.drain.1 ++ [.message ⟨e.messages + 1, text, kind⟩] := by
  have h (drawing : Option Drawing) :
      (({ e with messages := e.messages + 1, drawing := drawing }).push
        (.message ⟨e.messages + 1, text, kind⟩)).drain.1 =
      e.drain.1 ++ [.message ⟨e.messages + 1, text, kind⟩] := drain_push _ _
  simp only [showMessage]
  split <;> exact h _

theorem drain_refreshVisibility (e : Engine) :
    e.refreshVisibility.drain.1 = e.drain.1 ++ e.flips :=
  drain_foldl_push (fun entry : String × Bool => .visibilityChange entry.1 entry.2)
    (e.currentVisibility.filter fun entry => e.isVisible entry.1 != entry.2)
    { e with visibility := e.currentVisibility }

/-- A reset tells of itself, of the fields that it shows or hides, and of the new view. -/
theorem drain_reset (e : Engine) :
    e.reset.drain.1 =
      e.drain.1 ++ [.formReset] ++ ({ e with state := e.state.reset }).flips ++ [.formRendered] := by
  have h : ({ e with state := e.state.reset }).drain.1 = e.drain.1 ++ [.formReset] := by
    simp [drain, FormState.drain, FormState.reset, FormState.queue]
  rw [reset, drain_push, drain_rebuild, drain_refreshVisibility, h]

/-- An event of an accepted submission. -/
def isSubmitted (event : FormEvent) : Bool := event.kind = .formSubmitted

theorem filter_isSubmitted_flips (e : Engine) : e.flips.filter isSubmitted = [] :=
  FormEvent.filter_kind (fun _ => FormEvent.kind_of_mem_flips) .formSubmitted

/-- An accepted submission is told once, with the payload that was sent. -/
theorem submitted_accept (e : Engine) (payload : Payload) (response : SubmitResponse) :
    (e.accept payload response).drain.1.filter isSubmitted =
      e.drain.1.filter isSubmitted ++ [.formSubmitted payload.data response.toJson] := by
  simp only [accept]
  generalize (if Text.isBlank response.message then submittedText else response.message) = text
  have h : (((e.setStatus .submitted).push (.formSubmitted payload.data response.toJson)
      ).showMessage text .success).drain.1.filter isSubmitted =
      e.drain.1.filter isSubmitted ++ [.formSubmitted payload.data response.toJson] := by
    rw [drain_showMessage, drain_push, drain_setStatus]
    split <;> simp [isSubmitted, FormEvent.kind]
  split
  · rw [drain_reset]
    simp only [List.filter_append, h, filter_isSubmitted_flips]
    simp [isSubmitted, FormEvent.kind]
  · exact h

end Engine

end LiveForm
