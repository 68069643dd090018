import LiveForm.Proofs.Engine.Update

/-!
# What is drawn of an engine

A renderer is handed the view and the state, and the messages one by one. It keeps an outline and a
message of its own. `Engine.Painted` says that the outline is the one of the view and the state as
they are: whatever draws makes it so, and every operation either draws last or leaves all that an
outline shows (`Engine.picture`).

`Engine.notice` is the part of an engine that has to do with the message: the one that is shown, the
number of messages so far, and the one that is drawn. It changes by two steps only: a message is
told, and the one that is shown is taken away. Each operation has an equation for it.
-/

namespace LiveForm

/-! ## Outlines -/

namespace ViewNode

mutual

/-- The lines of a view depend on the data and the errors alone. -/
theorem lines_congr {s s' : FormState} (hdata : s.data = s'.data) (herrors : s.errors = s'.errors)
    (level : Nat) : (node : ViewNode) → node.lines s level = node.lines s' level
  | .field _ shown _ => by
    simp only [lines, fieldLines, FormState.value?, FormState.error?, hdata, herrors]
  | .container nodeId element _ text children => by
    rw [lines, lines, linesAll_congr hdata herrors (level + 1) children]
  | .placeholder _ diagnostic => by
    rw [lines, lines]

theorem linesAll_congr {s s' : FormState} (hdata : s.data = s'.data)
    (herrors : s.errors = s'.errors) (level : Nat) :
    (nodes : List ViewNode) → linesAll s level nodes = linesAll s' level nodes
  | [] => by rw [linesAll, linesAll]
  | node :: rest => by
    rw [linesAll, linesAll, lines_congr hdata herrors level node,
      linesAll_congr hdata herrors level rest]

end

theorem outline_congr {s s' : FormState} (hdata : s.data = s'.data)
    (herrors : s.errors = s'.errors) (node : ViewNode) : node.outline s = node.outline s' := by
  rw [outline, outline, lines_congr hdata herrors 0 node]

end ViewNode

/-- What an outline shows, and the outline that was drawn last. -/
structure Picture where
  view : Option ViewNode
  data : Json
  errors : Errors
  drawn : Option String

namespace Engine

/-- The outline of the view with the state as it is. It is empty where nothing is shown. -/
def outline (e : Engine) : String := (e.view.map fun v => v.outline e.state).getD ""

/-- The outline that was drawn last is the one of the view and the state as they are. -/
def Painted (e : Engine) : Prop := ∀ d, e.drawing = some d → d.outline = e.outline

/-- What the outline of the engine shows, and the one that was drawn last. -/
def picture (e : Engine) : Picture :=
  ⟨e.view, e.state.data, e.state.errors, e.drawing.map Drawing.outline⟩

variable {e e' : Engine}

/-- An engine with the same picture as a painted one is painted. -/
theorem Painted.of_picture (h : e.Painted) (hpicture : e'.picture = e.picture) : e'.Painted := by
  have hview : e'.view = e.view := congrArg Picture.view hpicture
  have hdata : e'.state.data = e.state.data := congrArg Picture.data hpicture
  have herrors : e'.state.errors = e.state.errors := congrArg Picture.errors hpicture
  have hdrawn : e'.drawing.map Drawing.outline = e.drawing.map Drawing.outline :=
    congrArg Picture.drawn hpicture
  have houtline : e'.outline = e.outline := by
    simp only [outline, hview, ViewNode.outline_congr hdata herrors]
  intro d' hd'
  rw [hd', Option.map_some] at hdrawn
  obtain ⟨d, hd, heq⟩ := Option.map_eq_some_iff.mp hdrawn.symm
  rw [← heq, houtline]
  exact h d hd

/-- Whatever draws leaves the engine painted. -/
theorem painted_draw (e : Engine) : e.draw.Painted := by
  intro d hd
  obtain ⟨before, -, rfl⟩ := Option.map_eq_some_iff.mp hd
  rfl

theorem painted_rebuild (e : Engine) : e.rebuild.Painted := painted_draw _

@[simp] theorem picture_push (e : Engine) (event : FormEvent) :
    (e.push event).picture = e.picture := rfl

@[simp] theorem picture_drain (e : Engine) : e.drain.2.picture = e.picture := rfl

theorem Painted.drain (h : e.Painted) : e.drain.2.Painted := h.of_picture (picture_drain e)

@[simp] theorem picture_setStatus (e : Engine) (status : FormStatus) :
    (e.setStatus status).picture = e.picture := by
  unfold setStatus; split <;> rfl

/-- A message is drawn beside the outline. -/
@[simp] theorem picture_showMessage (e : Engine) (text : String) (kind : MessageKind) :
    (e.showMessage text kind).picture = e.picture := by
  have hdrawn (m : StatusMessage) :
      (e.drawing.map fun d => d.tell m).map Drawing.outline = e.drawing.map Drawing.outline := by
    rw [Option.map_map]
    rfl
  simp only [showMessage]
  split <;> exact congrArg (Picture.mk _ _ _) (hdrawn _)

@[simp] theorem picture_clearMessage (e : Engine) : e.clearMessage.picture = e.picture := by
  have hclear (d : Drawing) (id : Nat) : (d.clear id).outline = d.outline := by
    unfold Drawing.clear; split <;> rfl
  unfold clearMessage
  split
  · refine congrArg (Picture.mk _ _ _) ?_
    rw [Option.map_map]
    exact congrArg (e.drawing.map ·) (funext fun d => hclear d _)
  · rfl

@[simp] theorem picture_expire (e : Engine) (id : Nat) : (e.expire id).2.picture = e.picture := by
  simp only [expire]
  split
  · exact picture_clearMessage _
  · rfl

@[simp] theorem picture_failLoad (e : Engine) (error : FormError) :
    (e.failLoad error).picture = e.picture := by
  simp [failLoad]

@[simp] theorem picture_reject (e : Engine) (reason : String) :
    (e.reject reason).picture = e.picture := by
  simp [reject]

@[simp] theorem picture_beginLoad (e : Engine) : e.beginLoad.2.2.picture = e.picture := by
  simp only [beginLoad, update, picture_drain]
  split
  · rw [picture_showMessage, picture_setStatus]
    rfl
  · rw [picture_setStatus]
    rfl

theorem painted_reset (e : Engine) : e.reset.Painted :=
  (painted_rebuild _).of_picture (picture_push _ _)

theorem painted_blur (h : e.Painted) (name : String) : (e.blur name).Painted := by
  simp only [blur]
  split
  · exact painted_rebuild _
  · refine h.of_picture ?_
    -- Marks are not drawn.
    simp only [picture, FormState.data_touch, FormState.errors_touch]

theorem painted_render (e : Engine) : e.render.Painted := by
  simp only [render]
  split
  · exact (painted_rebuild e).of_picture (picture_push _ _)
  · exact painted_rebuild e

/-- Every call that is done at once draws last, or changes nothing that an outline shows. -/
theorem painted_perform {call : EngineCall} {answer : Bool} (hpainted : e.Painted)
    (h : e.perform call = some (answer, e')) : e'.Painted :=
  perform_cases (P := Painted) h (fun _ _ _ => painted_rebuild _) (painted_blur hpainted)
    (painted_rebuild _) (painted_reset e) (painted_render e)

/-- The form is shown and drawn, before its status is set. -/
def displayed (e : Engine) : Engine :=
  { e with visibility := e.currentVisibility }.rebuild.push .formRendered

theorem present_eq (e : Engine) (d : FormDefinition) :
    e.present d =
      ((if e.displayed.message.any fun m => m.text == loadingText then e.displayed.clearMessage
        else e.displayed).setStatus .ready).push (.formLoaded d.formId d.name) := rfl

theorem painted_install {d : FormDefinition} (h : e.install d = some e') : e'.Painted := by
  obtain ⟨sown, -, rfl⟩ := install_eq_some_iff.mp h
  have hdisplayed : sown.displayed.Painted := (painted_rebuild _).of_picture (picture_push _ _)
  rw [present_eq]
  split
  · exact hdisplayed.of_picture (by simp)
  · exact hdisplayed.of_picture (by simp)

theorem painted_prepare (h : e.Painted) : e.prepare.2.Painted := by
  have hwritten : e.writeErrors.2.Painted := painted_rebuild _
  unfold prepare
  split
  · exact h
  · split
    · dsimp only
      split
      · exact hwritten.of_picture (picture_setStatus _ _)
      · exact hwritten.of_picture (by simp)
    · exact h

theorem painted_accept (h : e.Painted) (payload : Payload) (response : SubmitResponse) :
    (e.accept payload response).Painted := by
  simp only [accept]
  generalize (if Text.isBlank response.message then submittedText else response.message) = text
  split
  · exact painted_reset _
  · exact h.of_picture (by simp)

end Engine

/-! ## Messages -/

/-- The message that is shown, the number of messages so far, and the message that is drawn, if
there is something to draw on. -/
structure Notice where
  message : Option StatusMessage
  count : Nat
  drawn : Option (Option StatusMessage)

namespace Notice

/-- A message is told in place of the one before. -/
def tell (n : Notice) (text : String) (kind : MessageKind) : Notice :=
  ⟨some ⟨n.count + 1, text, kind⟩, n.count + 1, n.drawn.map fun _ => some ⟨n.count + 1, text, kind⟩⟩

/-- The message that is shown is taken away, and with it the one that is drawn, if it is the same.
-/
def clear (n : Notice) : Notice :=
  match n.message with
  | some m =>
    { n with
      message := none
      drawn := n.drawn.map fun shown => if shown.any fun s => s.id == m.id then none else shown }
  | none => n

end Notice

namespace Engine

/-- What an engine has to do with messages. -/
def notice (e : Engine) : Notice := ⟨e.message, e.messages, e.drawing.map Drawing.message⟩

@[simp] theorem notice_push (e : Engine) (event : FormEvent) :
    (e.push event).notice = e.notice := rfl

@[simp] theorem notice_drain (e : Engine) : e.drain.2.notice = e.notice := rfl

@[simp] theorem notice_setStatus (e : Engine) (status : FormStatus) :
    (e.setStatus status).notice = e.notice := by
  unfold setStatus; split <;> rfl

@[simp] theorem notice_rebuild (e : Engine) : e.rebuild.notice = e.notice := by
  refine congrArg (Notice.mk _ _) ?_
  show (e.drawing.map _).map Drawing.message = _
  rw [Option.map_map]
  rfl

@[simp] theorem notice_refreshVisibility (e : Engine) :
    e.refreshVisibility.notice = e.notice := by
  refine (foldl_keeps notice ?_ _ _).trans rfl
  rintro e ⟨id, visible⟩
  rfl

@[simp] theorem notice_showMessage (e : Engine) (text : String) (kind : MessageKind) :
    (e.showMessage text kind).notice = e.notice.tell text kind := by
  have hdrawn (m : StatusMessage) : (e.drawing.map fun d => d.tell m).map Drawing.message =
      (e.drawing.map Drawing.message).map fun _ => some m := by
    rw [Option.map_map, Option.map_map]
    rfl
  simp only [showMessage]
  split <;> exact congrArg (Notice.mk _ _) (hdrawn _)

@[simp] theorem notice_clearMessage (e : Engine) : e.clearMessage.notice = e.notice.clear := by
  unfold clearMessage Notice.clear
  show _ = match e.message with
    | some m => _
    | none => _
  cases e.message with
  | none => rfl
  | some m =>
    refine congrArg (Notice.mk _ _) ?_
    show (e.drawing.map _).map Drawing.message = (e.drawing.map Drawing.message).map _
    rw [Option.map_map, Option.map_map]
    refine congrArg (e.drawing.map ·) (funext fun d => ?_)
    simp only [Function.comp_apply, Drawing.clear]
    split <;> rfl

@[simp] theorem notice_validateNamed (e : Engine) (name : String) :
    (e.validateNamed name).notice = e.notice := by
  unfold validateNamed
  split
  · rfl
  · dsimp only
    split <;> rfl

@[simp] theorem notice_writeErrors (e : Engine) : e.writeErrors.2.notice = e.notice :=
  notice_rebuild _

@[simp] theorem notice_reset (e : Engine) : e.reset.notice = e.notice := by
  rw [reset, notice_push, notice_rebuild, notice_refreshVisibility]
  rfl

@[simp] theorem notice_follow (e : Engine) (names : List String) :
    (e.follow names).notice = e.notice := by
  simp only [follow, notice_rebuild]
  split
  · rw [foldl_keeps notice notice_validateNamed, notice_refreshVisibility]
  · exact notice_refreshVisibility e

@[simp] theorem notice_blur (e : Engine) (name : String) : (e.blur name).notice = e.notice := by
  simp only [blur]
  split
  · rw [notice_rebuild, notice_validateNamed]
    rfl
  · rfl

@[simp] theorem notice_render (e : Engine) : e.render.notice = e.notice := by
  simp only [render]
  split
  · rw [notice_push, notice_rebuild]
  · exact notice_rebuild e

/-- No call that is done at once has to do with messages. -/
theorem notice_perform {e e' : Engine} {call : EngineCall} {answer : Bool}
    (h : e.perform call = some (answer, e')) : e'.notice = e.notice :=
  perform_cases (P := fun x => x.notice = e.notice) h (fun _ _ _ => notice_follow _ _)
    (notice_blur e) (notice_writeErrors e) (notice_reset e) (notice_render e)

/-- A message goes when its own time is over, and no other. -/
theorem notice_expire (e : Engine) (id : Nat) :
    (e.expire id).2.notice =
      if e.message.any fun m => m.id == id then e.notice.clear else e.notice := by
  simp only [expire]
  split
  · exact notice_clearMessage _
  · rfl

theorem notice_beginLoad (e : Engine) :
    e.beginLoad.2.2.notice =
      if e.options.showLoadingStates then e.notice.tell loadingText .info else e.notice := by
  have hoptions : (({ e with loads := e.loads + 1 }).setStatus .loading).options = e.options :=
    congrArg Content.options (content_setStatus _ _)
  have hnotice : (({ e with loads := e.loads + 1 }).setStatus .loading).notice = e.notice :=
    notice_setStatus _ _
  simp only [beginLoad, update, notice_drain, hoptions]
  split
  · rw [notice_showMessage, hnotice]
  · exact hnotice

theorem notice_seedDefaults {e e' : Engine} {fields : List FieldDefinition}
    (h : e.seedDefaults fields = some e') : e'.notice = e.notice :=
  seedDefaults_keeps (P := fun x => x.notice = e.notice) (fun _ _ _ _ _ _ _ hmid => hmid) h rfl

/-- A form that is taken up takes the message that it is loaded away. -/
theorem notice_install {e e' : Engine} {d : FormDefinition} (h : e.install d = some e') :
    e'.notice =
      if e.message.any fun m => m.text == loadingText then e.notice.clear else e.notice := by
  obtain ⟨sown, hsown, rfl⟩ := install_eq_some_iff.mp h
  have hkept : sown.notice = e.notice := (notice_seedDefaults hsown).trans rfl
  have hdisplayed : sown.displayed.notice = e.notice := by
    rw [displayed, notice_push, notice_rebuild]
    exact hkept
  have hmessage : sown.displayed.message = e.message := congrArg Notice.message hdisplayed
  rw [present_eq, notice_push, notice_setStatus, hmessage]
  split
  · rw [notice_clearMessage, hdisplayed]
  · exact hdisplayed

@[simp] theorem notice_failLoad (e : Engine) (error : FormError) :
    (e.failLoad error).notice = e.notice.tell loadFailedText .error := by
  simp [failLoad]

@[simp] theorem notice_reject (e : Engine) (reason : String) :
    (e.reject reason).notice = e.notice.tell reason .error := by
  simp [reject]

theorem notice_accept (e : Engine) (payload : Payload) (response : SubmitResponse) :
    (e.accept payload response).notice = e.notice.tell
      (if Text.isBlank response.message then submittedText else response.message) .success := by
  simp only [accept]
  generalize (if Text.isBlank response.message then submittedText else response.message) = text
  split
  · rw [notice_reset, notice_showMessage, notice_push, notice_setStatus]
  · rw [notice_showMessage, notice_push, notice_setStatus]

/-- A preparation tells that there are errors, or nothing. -/
theorem notice_prepare (e : Engine) :
    e.prepare.2.notice = e.notice ∨ e.prepare.2.notice = e.notice.tell fixErrorsText .error := by
  unfold prepare
  split
  · exact .inl rfl
  · split
    · dsimp only
      split
      · rw [notice_setStatus, notice_writeErrors]
        exact .inl rfl
      · rw [notice_showMessage, notice_push, notice_writeErrors]
        exact .inr rfl
    · exact .inl rfl

end Engine

end LiveForm
