import LiveForm.Proofs.Definition.Check
import LiveForm.Proofs.Engine.Progress
import LiveForm.Proofs.Layout.Resolution

/-!
# What an engine is about

`Engine.content` is the part of an engine that a user fills in and sees: the definition, the data,
which fields are shown, and the view. Each operation has an equation for it. Status, messages,
errors and events do not touch it, and an operation that changes the data ends in
`Content.refreshed`: the map of what is shown is found out anew, and then the view.

From the equations follow the two invariants that every operation keeps. In a `Coherent` content
the map belongs to the definition and the data, the definition was checked, and the data is an
object. A `Drawn` content has the view that its layout resolves to.
-/

namespace LiveForm

/-- What a user fills in and sees. -/
structure Content where
  options : EngineOptions
  widgets : WidgetRegistry
  definition : Option FormDefinition
  data : Json
  visibility : Keyed Bool
  view : Option ViewNode
  seeded : List String

namespace Content

/-- Which fields are shown with the data. -/
def shown (c : Content) : Keyed Bool :=
  match c.definition with
  | some d => visibilityMap d.fields c.data
  | none => []

/-- What the layout shows with the map as it is. -/
def resolved (c : Content) : Option ViewNode :=
  c.definition.bind fun d =>
    match d.layout.resolve ⟨d, c.visibility, c.widgets⟩ maxLayoutDepth with
    | .ok view => view
    | .error _ => none

/-- The view is made anew. -/
def redrawn (c : Content) : Content := { c with view := c.resolved }

/-- The map is found out anew, and then the view. -/
def refreshed (c : Content) : Content := { c with visibility := c.shown }.redrawn

end Content

namespace Engine

/-- What the engine is about. -/
def content (e : Engine) : Content :=
  ⟨e.options, e.widgets, e.definition, e.state.data, e.visibility, e.view, e.seeded⟩

@[simp] theorem content_push (e : Engine) (event : FormEvent) :
    (e.push event).content = e.content := rfl

@[simp] theorem content_drain (e : Engine) : e.drain.2.content = e.content := rfl

@[simp] theorem content_setStatus (e : Engine) (status : FormStatus) :
    (e.setStatus status).content = e.content := by
  unfold setStatus; split <;> rfl

@[simp] theorem content_rebuild (e : Engine) : e.rebuild.content = e.content.redrawn := rfl

@[simp] theorem content_refreshVisibility (e : Engine) :
    e.refreshVisibility.content = { e.content with visibility := e.content.shown } := by
  refine (foldl_keeps content ?_ _ _).trans rfl
  rintro e ⟨id, visible⟩
  rfl

@[simp] theorem content_showMessage (e : Engine) (text : String) (kind : MessageKind) :
    (e.showMessage text kind).content = e.content := by
  simp only [showMessage]
  split <;> rfl

@[simp] theorem content_clearMessage (e : Engine) : e.clearMessage.content = e.content := by
  unfold clearMessage; split <;> rfl

@[simp] theorem content_expire (e : Engine) (id : Nat) : (e.expire id).2.content = e.content := by
  simp only [expire]
  split
  · exact content_clearMessage _
  · rfl

@[simp] theorem content_validateNamed (e : Engine) (name : String) :
    (e.validateNamed name).content = e.content := by
  unfold validateNamed
  split
  · rfl
  · dsimp only
    split <;> rfl

@[simp] theorem content_storeErrors (e : Engine) (errors : Errors) :
    (e.storeErrors errors).content = e.content := by
  refine congrArg (fun data => { e.content with data := data }) ?_
  exact foldl_keeps FormState.data (fun s entry => FormState.data_setError _ _ _) errors _

@[simp] theorem content_writeErrors (e : Engine) :
    e.writeErrors.2.content = e.content.redrawn := by
  rw [writeErrors, content_rebuild, content_storeErrors]
  rfl

/-- What follows a change of values is that the content is refreshed. -/
@[simp] theorem content_follow (e : Engine) (names : List String) :
    (e.follow names).content = e.content.refreshed := by
  simp only [follow, content_rebuild, Content.refreshed]
  split
  · rw [foldl_keeps content content_validateNamed, content_refreshVisibility]
  · rw [content_refreshVisibility]

theorem content_setFormData {e e' : Engine} {values : Keyed Json}
    (h : e.setFormData values = some e') :
    e'.content = { e.content with data := e.content.data.setAll values }.refreshed := by
  obtain ⟨state, hstate, rfl⟩ := setFormData_eq_some_iff.mp h
  have hdata : ({ e with state := state }).content =
      { e.content with data := e.content.data.setAll values } :=
    congrArg (fun data => { e.content with data := data }) (FormState.data_fill hstate)
  rw [content_follow, hdata]

theorem content_setValue {e e' : Engine} {name : String} {value : Json}
    (h : e.setValue name value = some e') :
    e'.content = { e.content with data := e.content.data.set name value }.refreshed := by
  rw [setValue_eq] at h
  exact content_setFormData h

@[simp] theorem content_blur (e : Engine) (name : String) :
    (e.blur name).content =
      if e.content.options.validateOnBlur then e.content.redrawn else e.content := by
  have h : ({ e with state := e.state.touch name }).content = e.content := by simp [content]
  have hoptions : e.content.options = e.options := rfl
  simp only [blur, hoptions]
  split <;> simp [h]

@[simp] theorem content_reset (e : Engine) :
    e.reset.content = { e.content with data := .obj [] }.refreshed := by
  rw [reset, content_push, content_rebuild, content_refreshVisibility]
  rfl

@[simp] theorem content_render (e : Engine) : e.render.content = e.content.redrawn := by
  simp only [render]
  split <;> rfl

/-- Putting in defaults changes the data, and which fields had their chance. -/
theorem content_seedDefaults {e e' : Engine} {fields : List FieldDefinition}
    (h : e.seedDefaults fields = some e') :
    e'.content = { e.content with data := e'.state.data, seeded := e'.seeded } := by
  refine seedDefaults_keeps (P := fun x =>
    x.content = { e.content with data := x.state.data, seeded := x.seeded }) ?_ h rfl
  intro mid id name value put state _ hmid
  exact congrArg (fun c : Content =>
    { c with data := state.data, seeded := id :: mid.seeded }) hmid

@[simp] theorem content_failLoad (e : Engine) (error : FormError) :
    (e.failLoad error).content = e.content := by
  simp [failLoad]

@[simp] theorem content_reject (e : Engine) (reason : String) :
    (e.reject reason).content = e.content := by
  simp [reject]

/-- An accepted submission leaves the form as it is, or resets it where the options say so. -/
@[simp] theorem content_accept (e : Engine) (payload : Payload) (response : SubmitResponse) :
    (e.accept payload response).content =
      if e.content.options.resetOnSubmit then { e.content with data := .obj [] }.refreshed
      else e.content := by
  simp only [accept]
  generalize (if Text.isBlank response.message then submittedText else response.message) = text
  generalize htold : ((e.setStatus .submitted).push
    (.formSubmitted payload.data response.toJson)).showMessage text .success = told
  have h : told.content = e.content := by rw [← htold]; simp
  have hoptions : told.options = e.content.options := congrArg Content.options h
  rw [hoptions]
  split
  · rw [content_reset, h]
  · exact h

@[simp] theorem content_present (e : Engine) (d : FormDefinition) :
    (e.present d).content = e.content.refreshed := by
  simp only [present, content_push, content_setStatus]
  split
  · rw [content_clearMessage]
    rfl
  · rfl

theorem content_install {e e' : Engine} {d : FormDefinition} (h : e.install d = some e') :
    ∃ sown, seedDefaults { e with definition := some d } d.fields = some sown ∧
      e'.content = sown.content.refreshed := by
  obtain ⟨sown, hsown, rfl⟩ := install_eq_some_iff.mp h
  exact ⟨sown, hsown, content_present sown d⟩

theorem definition_install {e e' : Engine} {d : FormDefinition} (h : e.install d = some e') :
    e'.definition = some d := by
  obtain ⟨sown, hsown, hcontent⟩ := content_install h
  rw [content_seedDefaults hsown] at hcontent
  exact congrArg Content.definition hcontent

end Engine

/-! ## What every operation keeps -/

namespace Content

/-- The map belongs to the definition and the data, the definition was checked, and the data is an
object. -/
structure Coherent (c : Content) : Prop where
  shown : c.visibility = c.shown
  accepted : ∀ d, c.definition = some d → d.check = .ok ()
  object : c.data.IsObject

/-- The view is what the layout resolves to. -/
def Drawn (c : Content) : Prop := c.view = c.resolved

theorem drawn_redrawn (c : Content) : c.redrawn.Drawn := rfl

theorem drawn_refreshed (c : Content) : c.refreshed.Drawn := drawn_redrawn _

theorem Coherent.redrawn {c : Content} (h : c.Coherent) : c.redrawn.Coherent :=
  ⟨h.shown, h.accepted, h.object⟩

/-- New data under a checked definition is coherent once the content is refreshed. -/
theorem coherent_refreshed {c : Content} (haccepted : ∀ d, c.definition = some d → d.check = .ok ())
    (hobject : c.data.IsObject) : c.refreshed.Coherent :=
  ⟨rfl, haccepted, hobject⟩

/-- A checked definition resolves, whatever is shown and whichever widgets there are. -/
theorem Coherent.exists_resolve {c : Content} (h : c.Coherent) {d : FormDefinition}
    (hd : c.definition = some d) (ctx : LayoutContext) :
    ∃ view, d.layout.resolve ctx maxLayoutDepth = .ok view :=
  LayoutNode.exists_resolve (FormDefinition.depth_le_of_check (h.accepted d hd)) ctx

/-- In a coherent content the view is the result of the resolution, which is no error. -/
theorem Coherent.resolve_eq {c : Content} (h : c.Coherent) (hdrawn : c.Drawn) {d : FormDefinition}
    (hd : c.definition = some d) :
    d.layout.resolve ⟨d, c.visibility, c.widgets⟩ maxLayoutDepth = .ok c.view := by
  obtain ⟨view, hview⟩ := h.exists_resolve hd ⟨d, c.visibility, c.widgets⟩
  rw [hdrawn, resolved, hd, Option.bind_some, hview]

end Content

namespace Engine

theorem isObject_setAll {v : Json} (h : v.IsObject) (values : Keyed Json) :
    (v.setAll values).IsObject := by
  induction values generalizing v with
  | nil => exact h
  | cons entry rest ih => exact ih (Json.isObject_set h entry.1 entry.2)

variable {e e' : Engine} {call : EngineCall} {answer : Bool} {d : FormDefinition}

/-- Putting in defaults leaves an object. -/
theorem isObject_seedDefaults {fields : List FieldDefinition}
    (h : e.seedDefaults fields = some e') (hobject : e.state.data.IsObject) :
    e'.state.data.IsObject := by
  refine seedDefaults_keeps (P := fun x => x.state.data.IsObject) ?_ h hobject
  intro mid id name value put state hput hmid
  rcases FormState.seed_cases hput with ⟨-, -, rfl⟩ | ⟨-, -, data, hdata, rfl⟩
  · exact hmid
  · obtain ⟨-, rfl⟩ := Json.set?_eq_some_iff.mp hdata
    exact Json.isObject_set hmid name value

/-- A call that is done at once changes the data, what is shown and the view, and nothing else. -/
theorem content_perform (h : e.perform call = some (answer, e')) :
    e'.content =
      { e.content with
        data := e'.content.data, visibility := e'.content.visibility, view := e'.content.view } := by
  refine perform_cases (P := fun x => x.content = { e.content with
    data := x.content.data, visibility := x.content.visibility, view := x.content.view }) h ?_ ?_ ?_
    ?_ ?_
  · intro values state _
    rw [content_follow]
    rfl
  · intro name
    simp only [content_blur]
    split <;> rfl
  · simp only [content_writeErrors]
    rfl
  · simp only [content_reset]
    rfl
  · simp only [content_render]
    rfl

/-- Every call that is done at once keeps the content coherent. -/
theorem coherent_perform (hcoherent : e.content.Coherent)
    (h : e.perform call = some (answer, e')) : e'.content.Coherent := by
  refine perform_cases (P := fun x => x.content.Coherent) h ?_ ?_ ?_ ?_ ?_
  · intro values state hstate
    rw [content_follow]
    refine Content.coherent_refreshed hcoherent.accepted ?_
    show state.data.IsObject
    rw [FormState.data_fill hstate]
    exact isObject_setAll hcoherent.object values
  · intro name
    rw [content_blur]
    split
    · exact hcoherent.redrawn
    · exact hcoherent
  · exact content_writeErrors e ▸ hcoherent.redrawn
  · rw [content_reset]
    exact Content.coherent_refreshed hcoherent.accepted ⟨[], rfl⟩
  · exact content_render e ▸ hcoherent.redrawn

/-- Every call that is done at once leaves the view drawn. -/
theorem drawn_perform (hdrawn : e.content.Drawn) (h : e.perform call = some (answer, e')) :
    e'.content.Drawn := by
  refine perform_cases (P := fun x => x.content.Drawn) h ?_ ?_ ?_ ?_ ?_
  · intro values state _
    exact content_follow _ _ ▸ Content.drawn_refreshed _
  · intro name
    rw [content_blur]
    split
    · exact Content.drawn_redrawn _
    · exact hdrawn
  · exact content_writeErrors e ▸ Content.drawn_redrawn _
  · exact content_reset e ▸ Content.drawn_refreshed _
  · exact content_render e ▸ Content.drawn_redrawn _

/-- Taking up a checked definition makes the content coherent. -/
theorem coherent_install (hcoherent : e.content.Coherent) (hd : d.check = .ok ())
    (h : e.install d = some e') : e'.content.Coherent := by
  obtain ⟨sown, hsown, heq⟩ := content_install h
  rw [heq, content_seedDefaults hsown]
  refine Content.coherent_refreshed (fun d' hd' => ?_)
    (isObject_seedDefaults hsown hcoherent.object)
  cases hd'
  exact hd

theorem drawn_install (h : e.install d = some e') : e'.content.Drawn := by
  obtain ⟨sown, -, heq⟩ := content_install h
  rw [heq]
  exact Content.drawn_refreshed _

end Engine

end LiveForm
