import LiveForm.Proofs.Engine.Update
import LiveForm.Proofs.Rules.Visibility

/-!
# What events tell of the data and the fields that are shown

Whoever keeps a copy of a form from its events alone takes the data from the last event that
describes them, and for each field the last change of whether it is shown. `Content.Told` says that
this is enough to get from one content to another. It holds of the events of every operation, with
one exception: a form that is taken up brings its own map of what is shown, and defaults, and tells
of neither.

An operation is made of smaller ones, and what each of them queues tells of what it changed
(`Engine.Tells`); the laws follow by going from one to the next.
-/

namespace LiveForm

/-- The data that an event describes. -/
def FormEvent.data? : FormEvent → Option Json
  | fieldChange _ _ data => some data
  | formReset => some (.obj [])
  | _ => none

/-- Whether a field is shown, where an event tells of it. -/
def FormEvent.shown? (fieldId : String) : FormEvent → Option Bool
  | visibilityChange id visible => if id = fieldId then some visible else none
  | _ => none

/-- The data that the last of the events that describe any describes. -/
def lastData (events : List FormEvent) : Option Json :=
  (events.filterMap FormEvent.data?).getLast?

/-- Whether a field is shown by the last of the events that tell of it. -/
def lastShown (fieldId : String) (events : List FormEvent) : Option Bool :=
  (events.filterMap (FormEvent.shown? fieldId)).getLast?

theorem lastData_append (events later : List FormEvent) :
    lastData (events ++ later) = (lastData later).or (lastData events) := by
  rw [lastData, List.filterMap_append, List.getLast?_append]
  rfl

theorem lastShown_append (fieldId : String) (events later : List FormEvent) :
    lastShown fieldId (events ++ later) =
      (lastShown fieldId later).or (lastShown fieldId events) := by
  rw [lastShown, List.filterMap_append, List.getLast?_append]
  rfl

/-- An event that tells neither of data nor of a field that is shown or hidden. -/
def FormEvent.Quiet (event : FormEvent) : Prop :=
  event.data? = none ∧ ∀ fieldId, event.shown? fieldId = none

theorem lastData_of_quiet {events : List FormEvent} (h : ∀ event ∈ events, event.Quiet) :
    lastData events = none := by
  have hnone : events.filterMap FormEvent.data? = [] :=
    List.filterMap_eq_nil_iff.mpr fun event hevent => (h event hevent).1
  rw [lastData, hnone]
  rfl

theorem lastShown_of_quiet {events : List FormEvent} (h : ∀ event ∈ events, event.Quiet)
    (fieldId : String) : lastShown fieldId events = none := by
  have hnone : events.filterMap (FormEvent.shown? fieldId) = [] :=
    List.filterMap_eq_nil_iff.mpr fun event hevent => (h event hevent).2 fieldId
  rw [lastShown, hnone]
  rfl

/-! ## From one content to another -/

namespace Content

/-- Events tell how one content came from another. -/
structure Told (before : Content) (events : List FormEvent) (after : Content) : Prop where
  data : after.data = (lastData events).getD before.data
  shown : ∀ fieldId, Keyed.find? after.visibility fieldId =
    (lastShown fieldId events).or (Keyed.find? before.visibility fieldId)

variable {before mid after : Content} {events later : List FormEvent}

theorem Told.trans (hfirst : before.Told events mid) (hlast : mid.Told later after) :
    before.Told (events ++ later) after where
  data := by
    rw [hlast.data, hfirst.data, lastData_append]
    cases lastData later <;> rfl
  shown fieldId := by
    rw [hlast.shown, hfirst.shown, lastShown_append, Option.or_assoc]

/-- What stays as it is needs not be told. -/
theorem told_of_quiet (hevents : ∀ event ∈ events, event.Quiet) (hdata : after.data = before.data)
    (hshown : after.visibility = before.visibility) : before.Told events after where
  data := by rw [lastData_of_quiet hevents, hdata]; rfl
  shown fieldId := by rw [lastShown_of_quiet hevents, hshown]; rfl

/-- The map of what is shown belongs to the definition, with data of some time. -/
def Mapped (c : Content) : Prop :=
  ∃ data, c.visibility = ({ c with data := data }).shown

theorem Coherent.mapped {c : Content} (h : c.Coherent) : c.Mapped := ⟨c.data, h.shown⟩

theorem Mapped.of_eq {c c' : Content} (h : c.Mapped) (hd : c'.definition = c.definition)
    (hshown : c'.visibility = c.visibility) : c'.Mapped := by
  obtain ⟨data, heq⟩ := h
  refine ⟨data, ?_⟩
  rw [hshown, heq, Content.shown, Content.shown, hd]

/-- A map of the definition has the same entries as every other, with other values. -/
theorem Mapped.isSome_eq {c : Content} (h : c.Mapped) (fieldId : String) :
    (Keyed.find? c.visibility fieldId).isSome = (Keyed.find? c.shown fieldId).isSome := by
  obtain ⟨data, heq⟩ := h
  rw [heq, Content.shown, Content.shown]
  cases c.definition with
  | none => rfl
  | some d => exact isSome_find?_visibilityMap d.fields data c.data fieldId

theorem ordered_shown (c : Content) : Keyed.Ordered c.shown := by
  unfold Content.shown
  split
  · exact ordered_visibilityMap _ _
  · exact List.Pairwise.nil

end Content

/-! ## States -/

namespace FormState

/-- What was queued on the way from one state to another tells of the data, and of nothing that is
shown. -/
def Tells (s s' : FormState) : Prop :=
  ∃ events, s'.pending = s.pending ++ events ∧ s'.data = (lastData events).getD s.data ∧
    ∀ fieldId, lastShown fieldId events = none

variable {s mid s' : FormState}

theorem Tells.trans (hfirst : s.Tells mid) (hlast : mid.Tells s') : s.Tells s' := by
  obtain ⟨events, hqueued, hdata, hshown⟩ := hfirst
  obtain ⟨later, hlater, hdata', hshown'⟩ := hlast
  refine ⟨events ++ later, by rw [hlater, hqueued, List.append_assoc], ?_, fun fieldId => ?_⟩
  · rw [hdata', hdata, lastData_append]
    cases lastData later <;> rfl
  · rw [lastShown_append, hshown, hshown']
    rfl

theorem Tells.refl (s : FormState) : s.Tells s :=
  ⟨[], (List.append_nil _).symm, rfl, fun _ => rfl⟩

/-- Where every step tells of what it does, all of them together do. -/
theorem tells_foldl {α : Type} {f : FormState → α → FormState} (hf : ∀ s x, Tells s (f s x))
    (xs : List α) (s : FormState) : s.Tells (xs.foldl f s) := by
  induction xs generalizing s with
  | nil => exact .refl s
  | cons x rest ih => exact (hf s x).trans (ih (f s x))

theorem tells_changed (s : FormState) (name : String) (value data : Json) :
    s.Tells (s.changed name value data) :=
  ⟨[.fieldChange name value data], pending_changed .., data_changed .., fun _ => rfl⟩

theorem tells_fill {values : Keyed Json} (h : s.fill values = some s') : s.Tells s' :=
  fill_keeps (fun _ _ _ _ _ hmid => hmid.trans (tells_changed _ _ _ _)) h (.refl s)

theorem tells_setError (s : FormState) (name : String) (error : Option String) :
    s.Tells (s.setError name error) :=
  ⟨_, rfl, rfl, fun _ => rfl⟩

theorem tells_clearErrors (s : FormState) : s.Tells s.clearErrors := ⟨_, rfl, rfl, fun _ => rfl⟩

theorem tells_reset (s : FormState) : s.Tells s.reset := ⟨_, rfl, rfl, fun _ => rfl⟩

theorem tells_touch (s : FormState) (name : String) : s.Tells (s.touch name) := by
  unfold touch
  split
  · exact .refl s
  · exact ⟨[], (List.append_nil _).symm, rfl, fun _ => rfl⟩

end FormState

/-! ## Operations -/

namespace Engine

/-- What was queued on the way from one engine to another tells of what was changed. -/
def Tells (e e' : Engine) : Prop :=
  ∃ events, e'.drain.1 = e.drain.1 ++ events ∧ e.content.Told events e'.content

variable {e mid e' : Engine}

theorem Tells.trans (hfirst : e.Tells mid) (hlast : mid.Tells e') : e.Tells e' := by
  obtain ⟨events, hqueued, htold⟩ := hfirst
  obtain ⟨later, hlater, htold'⟩ := hlast
  exact ⟨events ++ later, by rw [hlater, hqueued, List.append_assoc], htold.trans htold'⟩

/-- Queueing events that are quiet tells of nothing, where nothing is to be told. -/
theorem tells_of_quiet {events : List FormEvent} (hqueued : e'.drain.1 = e.drain.1 ++ events)
    (hquiet : ∀ event ∈ events, event.Quiet) (hdata : e'.content.data = e.content.data)
    (hshown : e'.content.visibility = e.content.visibility) : e.Tells e' :=
  ⟨events, hqueued, Content.told_of_quiet hquiet hdata hshown⟩

/-- An engine with the same content and the same queue tells of nothing. -/
theorem tells_of_eq (hqueued : e'.drain.1 = e.drain.1) (hdata : e'.content.data = e.content.data)
    (hshown : e'.content.visibility = e.content.visibility) : e.Tells e' :=
  ⟨[], by rw [hqueued, List.append_nil], Content.told_of_quiet nofun hdata hshown⟩

theorem Tells.refl (e : Engine) : e.Tells e := tells_of_eq rfl rfl rfl

/-- One event that is quiet tells of nothing. -/
theorem tells_of_one {event : FormEvent} (hqueued : e'.drain.1 = e.drain.1 ++ [event])
    (hquiet : event.Quiet) (hcontent : e'.content = e.content) : e.Tells e' := by
  refine tells_of_quiet hqueued ?_ (congrArg Content.data hcontent)
    (congrArg Content.visibility hcontent)
  intro other hother
  rw [List.mem_singleton.mp hother]
  exact hquiet

theorem tells_push (e : Engine) {event : FormEvent} (h : event.Quiet) : e.Tells (e.push event) :=
  tells_of_one (drain_push e event) h rfl

theorem tells_setStatus (e : Engine) (status : FormStatus) : e.Tells (e.setStatus status) := by
  unfold setStatus
  split
  · exact .refl e
  · have hset : e.Tells { e with status := status } := tells_of_eq rfl rfl rfl
    exact hset.trans (tells_push _ ⟨rfl, fun _ => rfl⟩)

theorem tells_showMessage (e : Engine) (text : String) (kind : MessageKind) :
    e.Tells (e.showMessage text kind) :=
  tells_of_one (drain_showMessage e text kind) ⟨rfl, fun _ => rfl⟩ (content_showMessage ..)

theorem tells_rebuild (e : Engine) : e.Tells e.rebuild := tells_of_eq (drain_rebuild e) rfl rfl

/-- The changes among the entries of a map tell of each field what the map says, if it is a
change. -/
theorem lastShown_changes {m : Keyed Bool} (h : m.Ordered) (changed : String × Bool → Bool)
    (fieldId : String) :
    lastShown fieldId ((m.filter changed).map fun entry => .visibilityChange entry.1 entry.2) =
      (Keyed.find? m fieldId).filter fun visible => changed (fieldId, visible) := by
  induction m with
  | nil => rfl
  | cons entry rest ih =>
    obtain ⟨id, visible⟩ := entry
    obtain ⟨hfirst, hrest⟩ := List.pairwise_cons.mp h
    have hsplit : (((id, visible) :: rest).filter changed).map
          (fun entry => FormEvent.visibilityChange entry.1 entry.2) =
        (if changed (id, visible) then [.visibilityChange id visible] else []) ++
          (rest.filter changed).map fun entry => .visibilityChange entry.1 entry.2 := by
      rw [List.filter_cons]
      split <;> rfl
    rw [hsplit, lastShown_append, ih hrest, Keyed.find?]
    by_cases hid : id = fieldId
    · -- The keys ascend, so that the identifier comes only once.
      have honce : Keyed.find? rest fieldId = none :=
        Keyed.find?_eq_none_of_lt fun other hother => hid ▸ hfirst other hother
      rw [honce, if_pos hid, hid, Option.filter_none, Option.none_or, Option.filter_some]
      split
      · simp [lastShown, FormEvent.shown?]
      · rfl
    · rw [if_neg hid]
      split <;> simp [lastShown, FormEvent.shown?, hid]

theorem lastData_flips (e : Engine) : lastData e.flips = none := by
  have hnone : e.flips.filterMap FormEvent.data? = [] := by
    refine List.filterMap_eq_nil_iff.mpr fun event hevent => ?_
    obtain ⟨entry, -, rfl⟩ := List.mem_map.mp hevent
    rfl
  rw [lastData, hnone]
  rfl

/-- Finding out anew what is shown tells of each field that it shows or hides. -/
theorem tells_refreshVisibility (h : e.content.Mapped) : e.Tells e.refreshVisibility := by
  refine ⟨e.flips, drain_refreshVisibility e, ?_⟩
  rw [content_refreshVisibility]
  refine ⟨by rw [lastData_flips]; rfl, fun fieldId => ?_⟩
  have hflips : lastShown fieldId e.flips =
      (Keyed.find? e.content.shown fieldId).filter fun visible => e.isVisible fieldId != visible :=
    lastShown_changes e.content.ordered_shown (fun entry => e.isVisible entry.1 != entry.2) fieldId
  have hsame := h.isSome_eq fieldId
  have hvisible : e.isVisible fieldId = (Keyed.find? e.content.visibility fieldId).getD true := rfl
  show Keyed.find? e.content.shown fieldId = _
  rw [hflips, hvisible]
  -- Both maps have an entry for the field, or neither.
  cases hnew : Keyed.find? e.content.shown fieldId with
  | none =>
    rw [hnew] at hsame
    have hbefore := Option.not_isSome_iff_eq_none.mp (ne_true_of_eq_false hsame)
    rw [hbefore]
    rfl
  | some visible =>
    rw [hnew] at hsame
    obtain ⟨before, hbefore⟩ := Option.isSome_iff_exists.mp hsame
    rw [hbefore, Option.getD_some, Option.filter_some]
    by_cases heq : before = visible
    · simp [heq]
    · simp [heq]

/-! ### Parts of operations -/

/-- What the state of an engine tells the engine tells. -/
theorem tells_state (e : Engine) {state : FormState} (h : e.state.Tells state) :
    e.Tells { e with state := state } := by
  obtain ⟨events, hqueued, hdata, hshown⟩ := h
  refine ⟨events, ?_, ⟨hdata, fun fieldId => ?_⟩⟩
  · show e.outbox ++ state.pending = e.outbox ++ e.state.pending ++ events
    rw [hqueued, List.append_assoc]
  · rw [hshown]
    rfl

theorem tells_validateNamed (e : Engine) (name : String) : e.Tells (e.validateNamed name) := by
  unfold validateNamed
  split
  · exact .refl e
  · rename_i field hfield
    dsimp only
    generalize (e.validator.validateField field (e.state.value? name) e.state.data).2 = validator
    have hvalidated : e.Tells { e with validator := validator } := tells_of_eq rfl rfl rfl
    split
    · exact hvalidated
    · exact hvalidated.trans (tells_state _ (e.state.tells_setError name _))

theorem tells_foldl_validateNamed (names : List String) (e : Engine) :
    e.Tells (names.foldl validateNamed e) := by
  induction names generalizing e with
  | nil => exact .refl e
  | cons name rest ih => exact (e.tells_validateNamed name).trans (ih (e.validateNamed name))

theorem tells_storeErrors (e : Engine) (errors : Errors) : e.Tells (e.storeErrors errors) := by
  have hset (s : FormState) (entry : String × String) :
      s.Tells (s.setError entry.1 (some entry.2)) := s.tells_setError entry.1 (some entry.2)
  exact tells_state e (e.state.tells_clearErrors.trans (FormState.tells_foldl hset errors _))

theorem tells_writeErrors (e : Engine) : e.Tells e.writeErrors.2 := by
  have hvalidated (validator : Validator) : e.Tells { e with validator := validator } :=
    tells_of_eq rfl rfl rfl
  exact ((hvalidated _).trans (tells_storeErrors _ _)).trans (tells_rebuild _)

/-! ### Calls that are done at once -/

/-- New data are told, and then what they show and hide. -/
theorem tells_refreshed (h : e.content.Mapped) {state : FormState} (hstate : e.state.Tells state) :
    e.Tells ({ e with state := state }).refreshVisibility :=
  (tells_state e hstate).trans (tells_refreshVisibility (h.of_eq rfl rfl))

theorem tells_follow (h : e.content.Mapped) {state : FormState} (hstate : e.state.Tells state)
    (names : List String) : e.Tells (({ e with state := state }).follow names) := by
  have hrefreshed := tells_refreshed h hstate
  simp only [follow]
  refine Tells.trans ?_ (tells_rebuild _)
  split
  · exact hrefreshed.trans (tells_foldl_validateNamed _ _)
  · exact hrefreshed

theorem tells_blur (e : Engine) (name : String) : e.Tells (e.blur name) := by
  have htouched := tells_state e (e.state.tells_touch name)
  simp only [blur]
  split
  · exact (htouched.trans (tells_validateNamed _ name)).trans (tells_rebuild _)
  · exact htouched

theorem tells_reset (h : e.content.Mapped) : e.Tells e.reset :=
  ((tells_refreshed h e.state.tells_reset).trans (tells_rebuild _)).trans
    (tells_push _ ⟨rfl, fun _ => rfl⟩)

theorem tells_render (e : Engine) : e.Tells e.render := by
  simp only [render]
  split
  · exact (tells_rebuild e).trans (tells_push _ ⟨rfl, fun _ => rfl⟩)
  · exact tells_rebuild e

/-- Every call that is done at once tells of what it does. -/
theorem tells_perform {call : EngineCall} {answer : Bool} (hmapped : e.content.Mapped)
    (h : e.perform call = some (answer, e')) : e.Tells e' :=
  perform_cases h
    (fun _ _ hstate => tells_follow hmapped (FormState.tells_fill hstate) _) (tells_blur e)
    (tells_writeErrors e) (tells_reset hmapped) (tells_render e)

/-! ### Loads and submissions -/

theorem tells_failLoad (e : Engine) (error : FormError) : e.Tells (e.failLoad error) :=
  ((tells_setStatus e .loadError).trans (tells_showMessage _ _ _)).trans
    (tells_push _ ⟨rfl, fun _ => rfl⟩)

theorem tells_prepare (e : Engine) : e.Tells e.prepare.2 := by
  unfold prepare
  split
  · exact .refl e
  · split
    · dsimp only
      split
      · exact (tells_writeErrors e).trans (tells_setStatus _ .submitting)
      · exact ((tells_writeErrors e).trans (tells_push _ ⟨rfl, fun _ => rfl⟩)).trans
          (tells_showMessage _ _ _)
    · exact .refl e

theorem tells_accept (h : e.content.Mapped) (payload : Payload) (response : SubmitResponse) :
    e.Tells (e.accept payload response) := by
  simp only [accept]
  generalize (if Text.isBlank response.message then submittedText else response.message) = text
  generalize htold : ((e.setStatus .submitted).push
    (.formSubmitted payload.data response.toJson)).showMessage text .success = told
  have htells : e.Tells told := htold ▸
    ((tells_setStatus e .submitted).trans (tells_push _ ⟨rfl, fun _ => rfl⟩)).trans
      (tells_showMessage _ _ _)
  have hcontent : told.content = e.content := by rw [← htold]; simp
  split
  · exact htells.trans (tells_reset (hcontent ▸ h))
  · exact htells

theorem tells_reject (e : Engine) (reason : String) : e.Tells (e.reject reason) :=
  ((tells_setStatus e .submitError).trans (tells_showMessage _ _ _)).trans
    (tells_push _ ⟨rfl, fun _ => rfl⟩)

/-! ### Changes as a whole -/

/-- Where nothing waited, all that a change gives out tells of what it did. -/
theorem Tells.told (hsettled : e.Settled) (h : e.Tells e') :
    e.content.Told e'.drain.1 e'.content := by
  obtain ⟨events, hqueued, htold⟩ := h
  rw [hqueued, show e.drain.1 = [] from hsettled]
  exact htold

theorem told_beginLoad (h : e.Settled) :
    e.content.Told e.beginLoad.2.1 e.beginLoad.2.2.content := by
  have hcounted : e.Tells { e with loads := e.loads + 1 } := tells_of_eq rfl rfl rfl
  have hloading := hcounted.trans (tells_setStatus _ .loading)
  simp only [beginLoad, update]
  split
  · exact (hloading.trans (tells_showMessage _ loadingText .info)).told h
  · exact hloading.told h

theorem told_expire (e : Engine) (id : Nat) :
    e.content.Told (e.expire id).1 (e.expire id).2.content := by
  rw [content_expire]
  refine Content.told_of_quiet ?_ rfl rfl
  intro event hevent
  simp only [expire] at hevent
  split at hevent
  · rw [List.mem_singleton.mp hevent]
    exact ⟨rfl, fun _ => rfl⟩
  · cases hevent

end Engine

end LiveForm
