import LiveForm.Proofs.Engine.Batches
import LiveForm.Proofs.Session.Telling
import LiveForm.Proofs.Session.Validation

/-!
# What is told of changes, one by one and at once

Whoever listens to a form while a value is changed hears the value first, then which other fields
come and go with it, and then what is wrong with the value now. `Run.edited` gives the events of the
step in full. Errors and marks of other fields are not touched, however the data hang together.

Several values can be put in one after the other, or at once as a batch (`Run.batch`). Either way
the form has the same data and marks, and shows the same fields, for what is shown depends on the
data alone. The values are told in the same order, each with the data so far. What differs is what
is told of fields that are shown and hidden again on the way: a batch tells of the difference
between its two ends.

The view is made anew at the end of a batch, even of an empty one, whereas no value at all changes
nothing. The two can be told apart where a widget was registered since the view was made: an empty
batch shows it (`empty_batch_redraws`).
-/

namespace LiveForm.Session

variable {options : EngineOptions} {timed : Bool} {s next last : Session} {events : List FormEvent}
  {trace turns : List Turn} {name : String} {value : Json} {values : Keyed Json}

/-! ## A change of one value -/

/-- A value can be put in exactly where there is room for it. The change tells of the value and the
data, of each field that it shows or hides, and then of the error under the name, if a validation
finds another one. -/
theorem Run.edited (hrun : Run (.fresh options timed) trace s) (name : String) (value : Json) :
    ((∃ events next, Step s (.call (.setValue name value)) events next) ↔
      s.engine.state.data.Writable (segments name)) ∧
    ∀ events next, Step s (.call (.setValue name value)) events next →
      s.engine.Edited name value events next.engine := by
  refine ⟨exists_step_call_iff.trans (s.engine.isSome_obey_setValue_iff name value), ?_⟩
  intro events next hstep
  obtain ⟨done, hdone, rfl, hnext⟩ := hstep.setValue_eq
  rw [← hnext]
  exact (Engine.edited_setValue hrun.coherent hrun.settled hdone).drain

/-- A text that has to be given, and a field that is shown as long as the text is not empty. -/
def hintForm : FormDefinition :=
  { noteForm with
    fields := [requiredField "text" "text",
      (FieldDefinition.ofKind "hint" .text).withCondition ⟨"text", .isNotEmpty, .null⟩] }

/-- The hint form, loaded, with a text. -/
def hinted : Session := ((loadedWith {} hintForm).calling (.setValue "text" (.str "x"))).2

/-- Where the text is taken away again, the hint is hidden and the text is missed. -/
theorem edited_hinted :
    ∃ trace events next, Run (.fresh {} true) trace hinted ∧
      Step hinted (.call (.setValue "text" (.str ""))) events next ∧
      hinted.engine.Edited "text" (.str "") events next.engine ∧
      events = [.fieldChange "text" (.str "") (.obj [("text", .str "")]),
        .visibilityChange "hint" false,
        .errorChange "text" (some "This field is required")
          [("text", "This field is required")]] := by
  obtain ⟨origin, hrun⟩ := run_loadedWith {} hintForm
  have hfilled : Run (.fresh {} true) _ hinted :=
    hrun.turn (step_calling (.setValue "text" (.str "x")) (by decide))
  have hstep := step_calling (s := hinted) (.setValue "text" (.str "")) (by decide)
  exact ⟨_, _, _, hfilled, hstep, (hfilled.edited _ _).2 _ _ hstep, by decide⟩

/-- A new engine in which tags were put, of which there are none. -/
def tagged : Session := ((fresh {} true).calling (.setValue "tags" (.arr []))).2

/-- Among tags there is no room under the greatest index, so that a change there tells of nothing:
it stops the program. -/
theorem edit_without_room :
    ∃ trace, Run (.fresh {} true) trace tagged ∧
      tagged.engine.state.data = .obj [("tags", .arr [])] ∧
      ∀ value events next,
        ¬ Step tagged (.call (.setValue "tags.18446744073709551615" value)) events next := by
  have hrun : Run (.fresh {} true) _ tagged :=
    Run.rest.turn (step_calling (.setValue "tags" (.arr [])) (by decide))
  refine ⟨_, hrun, by decide, fun value events next hstep => ?_⟩
  have hsome := exists_step_call_iff.mp ⟨events, next, hstep⟩
  have hroom := (tagged.engine.isSome_obey_setValue_iff _ value).mp hsome
  have hnull := (Json.isSome_write?_iff .null).mpr hroom
  revert hnull
  decide

/-! ## Several values -/

/-- The moves that put values in one after the other. -/
def puts (values : Keyed Json) : List Move :=
  values.map fun entry => .call (.setValue entry.1 entry.2)

/-- The events that tell of values. -/
def changesTold (events : List FormEvent) : List FormEvent :=
  events.filter fun event => event.kind = .fieldChange

/-- The events that tell of fields that are shown or hidden. -/
def flipsTold (events : List FormEvent) : List FormEvent :=
  events.filter fun event => event.kind = .visibilityChange

/-! ### One by one -/

/-- A change of one value tells of it once. -/
theorem Step.changesTold_setValue (h : Step s (.call (.setValue name value)) events next)
    (hcoherent : s.engine.content.Coherent) (hsettled : s.engine.Settled) :
    changesTold events = [.fieldChange name value (s.engine.state.data.set name value)] := by
  obtain ⟨done, hdone, rfl, -⟩ := h.setValue_eq
  have hedited := Engine.edited_setValue hcoherent hsettled hdone
  obtain ⟨flipped, found, htold, -, hfound⟩ := hedited.told
  have hkinds : ∀ event ∈ found, event.kind = .errorChange := by
    rcases hfound with ⟨error, -, rfl⟩ | ⟨rfl, -⟩
    · intro event hevent
      rw [List.mem_singleton.mp hevent]
      rfl
    · nofun
  rw [htold, (Json.set?_eq_some_iff.mp hedited.data).2, changesTold, List.cons_append,
    List.filter_cons_of_pos rfl, List.filter_append,
    FormEvent.filter_kind (fun _ => FormEvent.kind_of_mem_flips), FormEvent.filter_kind hkinds]
  rfl

/-- What values leave that were put in one after the other: the data and marks of a state into which
they were put, and what is shown with them. -/
structure Filled (s : Session) (values : Keyed Json) (state : FormState) (turns : List Turn)
    (last : Session) : Prop where
  fill : s.engine.state.fill values = some state
  content : last.engine.content =
    if values = [] then s.engine.content
    else { s.engine.content with data := state.data }.refreshed
  touched : last.engine.state.touched = state.touched
  told : changesTold (told turns) = FormEvent.ofValues s.engine.state.data values

variable {state : FormState}

theorem Filled.data (h : s.Filled values state turns last) :
    last.engine.state.data = state.data := by
  have hcontent := congrArg Content.data h.content
  split at hcontent
  · rename_i hnone
    obtain rfl : s.engine.state = state := by
      have hfill := h.fill
      rw [hnone] at hfill
      exact Option.some.inj hfill
    exact hcontent
  · exact hcontent

/-- One more value takes what those before it left. -/
theorem Filled.step {mid : Session} {before : Keyed Json} {entry : String × Json}
    (h : s.Filled before state trace mid)
    (hstep : Step mid (.call (.setValue entry.1 entry.2)) events next)
    (hcoherent : mid.engine.content.Coherent) (hsettled : mid.engine.Settled) :
    ∃ after, s.Filled (before ++ [entry]) after
      (trace ++ [⟨.call (.setValue entry.1 entry.2), events⟩]) next := by
  have hchanges := hstep.changesTold_setValue hcoherent hsettled
  obtain ⟨done, hdone, -, hnext⟩ := hstep.setValue_eq
  have hcontent := Engine.content_setValue hdone
  rw [← Engine.content_drain, hnext] at hcontent
  obtain ⟨put, hput, rfl⟩ := Option.map_eq_some_iff.mp hdone
  obtain ⟨data, hset, hputs⟩ := FormState.setValue_eq_some_iff.mp hput
  obtain ⟨-, hdata⟩ := Json.set?_eq_some_iff.mp hset
  have hsame : mid.engine.content.data.set entry.1 entry.2 = data := hdata.symm
  rw [h.data] at hset
  -- The state before has the same data as the session, so that the value can be put in there too.
  have hafter : state.setValue entry.1 entry.2 = some (state.changed entry.1 entry.2 data) :=
    FormState.setValue_eq_some_iff.mpr ⟨data, hset, rfl⟩
  have htouched : next.engine.state.touched = put.touched := by
    rw [← hnext]
    exact Engine.touched_follow _ _
  refine ⟨_, FormState.fill_concat.mpr ⟨state, h.fill, hafter⟩, ?_, ?_, ?_⟩
  · rw [hcontent, hsame, if_neg (List.concat_ne_nil _ before), FormState.data_changed, h.content]
    split <;> rfl
  · rw [htouched]
    exact FormState.touched_setValue_congr h.touched hput hafter
  · rw [told_concat, changesTold, List.filter_append, FormEvent.ofValues_append]
    refine congrArg₂ (· ++ ·) h.told (hchanges.trans ?_)
    rw [h.data, FormState.data_fill h.fill]
    rfl

theorem Run.filled (hrun : Run s turns last) (hcoherent : s.engine.content.Coherent)
    (hsettled : s.engine.Settled) (hmoves : turns.map Turn.move = puts values) :
    ∃ state, s.Filled values state turns last := by
  induction hrun generalizing values with
  | rest =>
    have hnone : values = [] := List.map_eq_nil_iff.mp hmoves.symm
    subst hnone
    exact ⟨s.engine.state, rfl, rfl, rfl, rfl⟩
  | @turn trace mid next move events hrun hstep ih =>
    -- The last move puts the last value in.
    rcases List.eq_nil_or_concat' values with rfl | ⟨before, entry, rfl⟩
    · simp [puts] at hmoves
    · rw [puts, List.map_append, List.map_append] at hmoves
      obtain ⟨hbefore, hlast⟩ := List.append_inj' hmoves rfl
      have hmove : move = .call (.setValue entry.1 entry.2) := List.singleton_injective hlast
      subst hmove
      obtain ⟨state, hfilled⟩ := ih hbefore
      exact hfilled.step hstep
        (hrun.keeps (fun _ _ _ _ hs h => h.coherent hs) hcoherent)
        (hrun.keeps (fun _ _ _ _ hs h => h.settled hs) hsettled)

/-- Values can be put in one after the other as long as they can be put into the state. -/
theorem exists_run_puts (hcoherent : s.engine.content.Coherent) (hsettled : s.engine.Settled)
    (h : s.engine.state.fill values = some state) :
    ∃ turns last, Run s turns last ∧ turns.map Turn.move = puts values := by
  induction values using List.reverseRecOn generalizing state with
  | nil => exact ⟨[], s, .rest, rfl⟩
  | append_singleton before entry ih =>
    obtain ⟨mid, hmid, hput⟩ := FormState.fill_concat.mp h
    obtain ⟨turns, last, hrun, hmoves⟩ := ih hmid
    obtain ⟨_, hfilled⟩ := hrun.filled hcoherent hsettled hmoves
    cases hmid.symm.trans hfilled.fill
    have hroom := (mid.isSome_setValue_iff entry.1 entry.2).mp (congrArg Option.isSome hput)
    rw [← hfilled.data, ← last.engine.isSome_obey_setValue_iff entry.1 entry.2] at hroom
    refine ⟨_, _, hrun.turn (step_calling (.setValue entry.1 entry.2) hroom), ?_⟩
    rw [List.map_append, hmoves, puts, puts, List.map_append]
    rfl

/-! ### At once -/

/-- A batch leaves what its values leave together. -/
theorem Step.content_setFormData (h : Step s (.call (.setFormData values)) events next) :
    ∃ state, s.engine.state.fill values = some state ∧
      next.engine.content = ({ s.engine.content with data := state.data }).refreshed ∧
      next.engine.state.touched = state.touched := by
  obtain ⟨done, hdone, -, hnext⟩ := h.setFormData_eq
  obtain ⟨state, hstate, rfl⟩ := Engine.setFormData_eq_some_iff.mp hdone
  rw [← hnext]
  exact ⟨state, hstate, Engine.content_follow { s.engine with state := state } values.keys,
    Engine.touched_follow _ _⟩

/-- A batch tells of its values in their order, and of the fields that are shown the difference. -/
theorem Step.told_setFormData (h : Step s (.call (.setFormData values)) events next)
    (hcoherent : s.engine.content.Coherent) (hsettled : s.engine.Settled) :
    changesTold events = FormEvent.ofValues s.engine.state.data values ∧
    ∃ flipped, flipsTold events = flipped.map (fun entry => .visibilityChange entry.1 entry.2) ∧
      Differs s.engine.fields s.engine.state.data next.engine.state.data flipped := by
  obtain ⟨done, hdone, rfl, hnext⟩ := h.setFormData_eq
  obtain ⟨state, hstate, rfl⟩ := Engine.setFormData_eq_some_iff.mp hdone
  obtain ⟨flipped, found, htold, hdiffers, hkinds⟩ := Engine.drain_setFormData hcoherent hstate
  have hdata : next.engine.state.data = state.data := by
    rw [← hnext]
    exact congrArg Content.data
      (Engine.content_follow { s.engine with state := state } values.keys)
  rw [show s.engine.drain.1 = [] from hsettled, List.nil_append] at htold
  have hsplit (kind : EventKind) := congrArg (List.filter fun event => event.kind = kind) htold
  simp only [List.filter_append, FormEvent.filter_kind (fun _ => FormEvent.kind_of_mem_ofValues),
    FormEvent.filter_kind (fun _ => FormEvent.kind_of_mem_flips), FormEvent.filter_kind hkinds]
    at hsplit
  refine ⟨(hsplit .fieldChange).trans ?_, flipped, (hsplit .visibilityChange).trans ?_,
    hdata ▸ hdiffers⟩
  · simp
  · simp

/-- Several values can be put in at once exactly if they can be put in one after the other, and so
they can where there is room for each of them at its turn. Either way they leave the same data and
marks, show the same fields and are told in the same order. The view is the same as well, where there
is a value or the view was the one that the layout resolves to. A batch tells of each field that is
shown before it and hidden after it, or the other way round. -/
theorem Run.batch (hrun : Run (.fresh options timed) trace s) (values : Keyed Json) :
    ((∃ events next, Step s (.call (.setFormData values)) events next) ↔
      ∃ turns last, Run s turns last ∧ turns.map Turn.move = puts values) ∧
    (s.engine.state.data.AllWritable values →
      ∃ events next, Step s (.call (.setFormData values)) events next) ∧
    ∀ events next, Step s (.call (.setFormData values)) events next →
      (∀ turns last, Run s turns last → turns.map Turn.move = puts values →
        next.engine.state.data = last.engine.state.data ∧
        next.engine.state.touched = last.engine.state.touched ∧
        next.engine.visibility = last.engine.visibility ∧
        (values ≠ [] ∨ s.engine.content.Drawn → next.engine.view = last.engine.view) ∧
        changesTold events = changesTold (Session.told turns)) ∧
      (values = [] → next.engine.view = s.engine.content.resolved) ∧
      ∃ flipped, flipsTold events = flipped.map (fun entry => .visibilityChange entry.1 entry.2) ∧
        Differs s.engine.fields s.engine.state.data next.engine.state.data flipped := by
  have hroom : (∃ events next, Step s (.call (.setFormData values)) events next) ↔
      s.engine.state.data.AllWritable values :=
    exists_step_call_iff.trans (s.engine.isSome_obey_setFormData_iff values)
  refine ⟨?_, hroom.mpr, ?_⟩
  · constructor
    · rintro ⟨events, next, hbatch⟩
      obtain ⟨state, hstate, -⟩ := hbatch.content_setFormData
      exact exists_run_puts hrun.coherent hrun.settled hstate
    · rintro ⟨turns, last, hturns, hmoves⟩
      obtain ⟨state, hfilled⟩ := hturns.filled hrun.coherent hrun.settled hmoves
      rw [hroom, ← s.engine.state.isSome_fill_iff, hfilled.fill]
      rfl
  · intro events next hbatch
    obtain ⟨state, hstate, hcontent, htouched⟩ := hbatch.content_setFormData
    obtain ⟨hchanges, hflips⟩ := hbatch.told_setFormData hrun.coherent hrun.settled
    -- Without a value the map is found out anew and is the same, and the view is made anew.
    have hempty : values = [] → next.engine.content = s.engine.content.redrawn := by
      rintro rfl
      cases hstate
      have hshown : s.engine.content.shown = s.engine.content.visibility :=
        hrun.coherent.shown.symm
      have hsame : { s.engine.content with visibility := s.engine.content.shown } =
          s.engine.content := by rw [hshown]
      exact hcontent.trans (congrArg Content.redrawn hsame)
    refine ⟨?_, fun hnone => congrArg Content.view (hempty hnone), hflips⟩
    intro turns last hturns hmoves
    obtain ⟨_, hfilled⟩ := hturns.filled hrun.coherent hrun.settled hmoves
    cases hstate.symm.trans hfilled.fill
    have hlast := hfilled.content
    have hdata : next.engine.state.data = last.engine.state.data :=
      (congrArg Content.data hcontent).trans hfilled.data.symm
    have hmarks : next.engine.state.touched = last.engine.state.touched :=
      htouched.trans hfilled.touched.symm
    by_cases hnone : values = []
    · rw [if_pos hnone] at hlast
      have hnext := hempty hnone
      refine ⟨hdata, hmarks, ?_, ?_, hchanges.trans hfilled.told.symm⟩
      · exact congrArg Content.visibility (hnext.trans (congrArg Content.redrawn hlast.symm))
      · intro hview
        have hdrawn : s.engine.content.view = s.engine.content.resolved :=
          hview.resolve_left (not_not_intro hnone)
        exact ((congrArg Content.view hnext).trans hdrawn.symm).trans
          (congrArg Content.view hlast.symm)
    · rw [if_neg hnone, ← hcontent] at hlast
      exact ⟨hdata, hmarks, congrArg Content.visibility hlast.symm,
        fun _ => congrArg Content.view hlast.symm, hchanges.trans hfilled.told.symm⟩

/-- Values of which one is under another, and one shows the hint. -/
def hintValues : Keyed Json :=
  [("more", .str "a"), ("more.detail", .str "b"), ("text", .str "x")]

/-- The hint comes with the text, whether all values are put in at once or one after the other. -/
theorem batch_hintForm :
    ∃ trace s events next turns last, Run (.fresh {} true) trace s ∧
      Step s (.call (.setFormData hintValues)) events next ∧
      Run s turns last ∧ turns.map Turn.move = puts hintValues ∧
      next.engine.state.data = last.engine.state.data ∧
      next.engine.visibility = last.engine.visibility ∧
      next.engine.view = last.engine.view ∧
      changesTold events = changesTold (told turns) ∧
      flipsTold events = [.visibilityChange "hint" true] := by
  obtain ⟨origin, hrun⟩ := run_loadedWith {} hintForm
  have hbatch := step_calling (s := loadedWith {} hintForm) (.setFormData hintValues) (by decide)
  obtain ⟨hboth, -, hleaves⟩ := hrun.batch hintValues
  obtain ⟨turns, last, hturns, hmoves⟩ := hboth.mp ⟨_, _, hbatch⟩
  obtain ⟨hdata, -, hvisibility, hview, htold⟩ := (hleaves _ _ hbatch).1 turns last hturns hmoves
  exact ⟨origin, _, _, _, turns, last, hrun, hbatch, hturns, hmoves, hdata, hvisibility,
    hview (.inl nofun), htold, by decide⟩

/-- A form with a field of a kind that has no widget. -/
def sliderForm : FormDefinition :=
  { noteForm with fields := [.ofKind "text" (.other "slider")] }

/-- The form with the slider, loaded, and then a widget for it. -/
def sliderRegistered : Session :=
  let shown := (loadedWith {} sliderForm).engine
  { loadedWith {} sliderForm with
    engine := { shown with
      widgets := (shown.widgets.register "slider" (.custom "slider")).2 } }

/-- A batch without values shows a widget that was registered since the view was made. To put in no
value at all shows nothing new. -/
theorem empty_batch_redraws :
    ∃ trace s events next, Run (.fresh {} true) trace s ∧
      Step s (.call (.setFormData [])) events next ∧
      ∀ turns last, Run s turns last → turns.map Turn.move = puts [] →
        next.engine.view ≠ last.engine.view := by
  obtain ⟨origin, hrun⟩ := run_loadedWith {} sliderForm
  have hregistered : Run (.fresh {} true) _ sliderRegistered :=
    hrun.turn (.addWidget "slider" (.custom "slider"))
  refine ⟨_, _, _, _, hregistered, step_calling (.setFormData []) (by decide), ?_⟩
  intro turns last hturns hmoves hview
  obtain ⟨state, hfilled⟩ := hturns.filled hregistered.coherent hregistered.settled hmoves
  have hlast : last.engine.view = sliderRegistered.engine.view :=
    congrArg Content.view hfilled.content
  -- The field is shown with its widget after the batch, and by a placeholder before.
  have hshown := congrArg (Option.map ViewNode.fieldIds) (hview.trans hlast)
  revert hshown
  decide

end LiveForm.Session
