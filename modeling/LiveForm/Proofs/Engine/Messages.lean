import LiveForm.Proofs.Engine.Blame

/-!
# What waits to be told about messages

Of all that an operation queues, `Engine.spoken` are the events about messages. Only a message that
is shown queues one, whatever else an operation does to the form: an operation leaves the message and
tells of none, or shows a new one and tells of it alone (`Engine.Announces`). A message goes away in
two other ways, which wait for nothing: its time is over, or the form is there that it said is loaded.
-/

namespace LiveForm

namespace FormEvent

/-- The event tells of a message that is shown, or that its time is over. -/
def aboutMessage : FormEvent → Bool
  | message _ | messageExpired _ => true
  | _ => false

end FormEvent

namespace FormState

variable (s : FormState) (name : String)

/-- No state tells of messages. -/
theorem spoken_changed (value data : Json) :
    (s.changed name value data).pending.filter FormEvent.aboutMessage =
      s.pending.filter FormEvent.aboutMessage := by
  simp [FormEvent.aboutMessage]

theorem spoken_fill {s s' : FormState} {values : Keyed Json} (h : s.fill values = some s') :
    s'.pending.filter FormEvent.aboutMessage = s.pending.filter FormEvent.aboutMessage :=
  fill_keeps (P := fun x => x.pending.filter FormEvent.aboutMessage =
    s.pending.filter FormEvent.aboutMessage)
    (fun mid name value data _ hmid => (mid.spoken_changed name value data).trans hmid) h rfl

theorem spoken_setError (error : Option String) :
    (s.setError name error).pending.filter FormEvent.aboutMessage =
      s.pending.filter FormEvent.aboutMessage := by
  simp [setError, queue, FormEvent.aboutMessage]

theorem spoken_clearErrors : s.clearErrors.pending.filter FormEvent.aboutMessage =
    s.pending.filter FormEvent.aboutMessage := by
  simp [clearErrors, queue, FormEvent.aboutMessage]

theorem spoken_reset : s.reset.pending.filter FormEvent.aboutMessage =
    s.pending.filter FormEvent.aboutMessage := by
  simp [reset, queue, FormEvent.aboutMessage]

end FormState

namespace Engine

/-- What waits to be told about messages. -/
def spoken (e : Engine) : List FormEvent := e.drain.1.filter FormEvent.aboutMessage

theorem Settled.spoken {e : Engine} (h : e.Settled) : e.spoken = [] := by
  rw [Engine.spoken, show e.drain.1 = [] from h, List.filter_nil]

/-- What an operation queues behind the rest is not about messages. -/
theorem spoken_of_quiet {e e' : Engine} {events : List FormEvent}
    (hqueued : e'.drain.1 = e.drain.1 ++ events)
    (hquiet : ∀ event ∈ events, event.aboutMessage = false) : e'.spoken = e.spoken := by
  have hnone : events.filter FormEvent.aboutMessage = [] :=
    List.filter_eq_nil_iff.mpr fun event hevent => ne_true_of_eq_false (hquiet event hevent)
  rw [spoken, hqueued, List.filter_append, hnone, List.append_nil, spoken]

theorem spoken_push (e : Engine) {event : FormEvent} (h : event.aboutMessage = false) :
    (e.push event).spoken = e.spoken := by
  refine spoken_of_quiet (drain_push e event) ?_
  intro other hother
  rw [List.mem_singleton.mp hother]
  exact h

@[simp] theorem spoken_setStatus (e : Engine) (status : FormStatus) :
    (e.setStatus status).spoken = e.spoken := by
  unfold setStatus
  split
  · rfl
  · exact spoken_push { e with status := status } rfl

/-- A message that is shown is told behind the rest. -/
@[simp] theorem spoken_showMessage (e : Engine) (text : String) (kind : MessageKind) :
    (e.showMessage text kind).spoken =
      e.spoken ++ [.message ⟨e.messages + 1, text, kind⟩] := by
  rw [spoken, drain_showMessage, List.filter_append]
  rfl

@[simp] theorem spoken_rebuild (e : Engine) : e.rebuild.spoken = e.spoken := rfl

@[simp] theorem spoken_refreshVisibility (e : Engine) :
    e.refreshVisibility.spoken = e.spoken := by
  refine spoken_of_quiet (drain_refreshVisibility e) ?_
  intro event hevent
  obtain ⟨entry, -, rfl⟩ := List.mem_map.mp hevent
  rfl

/-- A state that tells of the same messages leaves what waits to be told about them. -/
theorem spoken_state (e : Engine) {state : FormState}
    (h : state.pending.filter FormEvent.aboutMessage =
      e.state.pending.filter FormEvent.aboutMessage) :
    ({ e with state := state }).spoken = e.spoken := by
  show (e.outbox ++ state.pending).filter _ = (e.outbox ++ e.state.pending).filter _
  rw [List.filter_append, List.filter_append, h]

@[simp] theorem spoken_validateNamed (e : Engine) (name : String) :
    (e.validateNamed name).spoken = e.spoken := by
  unfold validateNamed
  split
  · rfl
  · dsimp only
    split
    · rfl
    · exact spoken_state { e with validator := _ } (e.state.spoken_setError name _)

theorem spoken_storeErrors (e : Engine) (errors : Errors) :
    (e.storeErrors errors).spoken = e.spoken := by
  have hset (s : FormState) (entry : String × String) :
      (s.setError entry.1 (some entry.2)).pending.filter FormEvent.aboutMessage =
        s.pending.filter FormEvent.aboutMessage := s.spoken_setError entry.1 (some entry.2)
  refine spoken_state e ?_
  have hstored := foldl_keeps (fun s : FormState => s.pending.filter FormEvent.aboutMessage) hset
    errors e.state.clearErrors
  exact hstored.trans e.state.spoken_clearErrors

@[simp] theorem spoken_writeErrors (e : Engine) : e.writeErrors.2.spoken = e.spoken :=
  (spoken_rebuild _).trans (spoken_storeErrors _ _)

@[simp] theorem spoken_reset (e : Engine) : e.reset.spoken = e.spoken := by
  rw [reset, spoken_push _ rfl, spoken_rebuild, spoken_refreshVisibility]
  exact spoken_state e e.state.spoken_reset

@[simp] theorem spoken_follow (e : Engine) (names : List String) :
    (e.follow names).spoken = e.spoken := by
  simp only [follow, spoken_rebuild]
  split
  · rw [foldl_keeps spoken spoken_validateNamed, spoken_refreshVisibility]
  · exact spoken_refreshVisibility e

@[simp] theorem spoken_blur (e : Engine) (name : String) : (e.blur name).spoken = e.spoken := by
  have htouched := spoken_state e
    (congrArg (List.filter FormEvent.aboutMessage) (e.state.pending_touch name))
  simp only [blur]
  split
  · rw [spoken_rebuild, spoken_validateNamed, htouched]
  · exact htouched

@[simp] theorem spoken_render (e : Engine) : e.render.spoken = e.spoken := by
  simp only [render]
  split
  · rw [spoken_push _ rfl, spoken_rebuild]
  · exact spoken_rebuild e

/-- No call that is done at once tells of messages. -/
theorem spoken_perform {e e' : Engine} {call : EngineCall} {answer : Bool}
    (h : e.perform call = some (answer, e')) : e'.spoken = e.spoken := by
  refine perform_cases (P := fun x => x.spoken = e.spoken) h ?_ (spoken_blur e)
    (spoken_writeErrors e) (spoken_reset e) (spoken_render e)
  intro values state hstate
  rw [spoken_follow]
  exact spoken_state e (FormState.spoken_fill hstate)

/-! ## Announcements -/

/-- From one engine to another the message stays and no message is told, or a new message takes its
place and is told. -/
def Announces (e e' : Engine) : Prop :=
  (e'.notice = e.notice ∧ e'.spoken = e.spoken) ∨
  ∃ text kind, e'.notice = e.notice.tell text kind ∧
    e'.spoken = e.spoken ++ [.message ⟨e.messages + 1, text, kind⟩]

theorem announces_perform {e e' : Engine} {call : EngineCall} {answer : Bool}
    (h : e.perform call = some (answer, e')) : e.Announces e' :=
  .inl ⟨notice_perform h, spoken_perform h⟩

theorem announces_prepare (e : Engine) : e.Announces e.prepare.2 := by
  have hwritten : (e.writeErrors.2).messages = e.messages :=
    congrArg Notice.count (notice_writeErrors e)
  unfold prepare
  split
  · exact .inl ⟨rfl, rfl⟩
  · split
    · dsimp only
      split
      · exact .inl ⟨by simp, by simp⟩
      · refine .inr ⟨fixErrorsText, .error, by simp, ?_⟩
        rw [spoken_showMessage, spoken_push _ rfl, spoken_writeErrors, ← hwritten]
        rfl
    · exact .inl ⟨rfl, rfl⟩

theorem announces_accept (e : Engine) (payload : Payload) (response : SubmitResponse) :
    e.Announces (e.accept payload response) := by
  have hcount : (e.setStatus .submitted).messages = e.messages :=
    congrArg Notice.count (notice_setStatus e .submitted)
  refine .inr ⟨_, _, notice_accept e payload response, ?_⟩
  simp only [accept]
  generalize (if Text.isBlank response.message then submittedText else response.message) = text
  have htold : (((e.setStatus .submitted).push (.formSubmitted payload.data response.toJson)
      ).showMessage text .success).spoken =
      e.spoken ++ [.message ⟨e.messages + 1, text, .success⟩] := by
    rw [spoken_showMessage, spoken_push _ rfl, spoken_setStatus, ← hcount]
    rfl
  split
  · rw [spoken_reset, htold]
  · exact htold

/-- A status, a message and an error tell of the message alone. -/
theorem announces_failure (e : Engine) (status : FormStatus) (reason text detail : String) :
    e.Announces (((e.setStatus status).showMessage reason .error).push (.error text detail)) := by
  have hcount : (e.setStatus status).messages = e.messages :=
    congrArg Notice.count (notice_setStatus e status)
  refine .inr ⟨reason, .error, by simp, ?_⟩
  rw [spoken_push _ rfl, spoken_showMessage, spoken_setStatus, hcount]

theorem announces_failLoad (e : Engine) (error : FormError) : e.Announces (e.failLoad error) :=
  announces_failure ..

theorem announces_reject (e : Engine) (reason : String) : e.Announces (e.reject reason) :=
  announces_failure ..

theorem announces_beginLoad (e : Engine) :
    ∃ started : Engine, e.beginLoad.2 = started.drain ∧ e.Announces started := by
  have hnotice : (({ e with loads := e.loads + 1 }).setStatus .loading).notice = e.notice :=
    notice_setStatus _ .loading
  have hspoken : (({ e with loads := e.loads + 1 }).setStatus .loading).spoken = e.spoken :=
    spoken_setStatus _ .loading
  have hcount : (({ e with loads := e.loads + 1 }).setStatus .loading).messages = e.messages :=
    congrArg Notice.count hnotice
  refine ⟨_, rfl, ?_⟩
  split
  · refine .inr ⟨loadingText, .info, by rw [notice_showMessage, hnotice], ?_⟩
    rw [spoken_showMessage, hspoken, hcount]
  · exact .inl ⟨hnotice, hspoken⟩

/-- A form that is taken up tells of no message. -/
theorem spoken_install {e e' : Engine} {d : FormDefinition} (h : e.install d = some e') :
    e'.spoken = e.spoken := by
  refine spoken_of_quiet (drain_install h) ?_
  intro event hevent
  simp only [List.mem_append, List.mem_singleton] at hevent
  rcases hevent with (rfl | hstatus) | rfl
  · rfl
  · split at hstatus
    · cases hstatus
    · rw [List.mem_singleton.mp hstatus]
      rfl
  · rfl

end Engine

end LiveForm
