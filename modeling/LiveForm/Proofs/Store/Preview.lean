import LiveForm.Proofs.Engine.Edits
import LiveForm.Proofs.Session.Defaults
import LiveForm.Proofs.Session.Drawing
import LiveForm.Proofs.Session.View
import LiveForm.Proofs.Store.Soundness

/-!
# A preview is what an engine draws

A store draws a form with given data all at once: the map of what is shown, the view and its
outline. An engine comes to the same outline in steps: it takes the form up, puts the values in at
their names, finds out anew what is shown, and draws. Where no default is put in and no name is
dotted, the data are the same in the end, and so is all that follows from them
(`Store.Reached.preview_live`).

Renderers may be attached at any time meanwhile, and messages may go away; neither does anything to
the form. `acts` are the other moves of a run. None of these stops (`Session.exists_filled`): no
default is put in, and an object has room at every name without a dot.
-/

namespace LiveForm

namespace Engine

/-- Values that are put in without a validation leave the errors as they are. -/
theorem errors_setFormData {e e' : Engine} {values : Keyed Json}
    (hquiet : e.options.validateOnChange = false) (h : e.setFormData values = some e') :
    e'.state.errors = e.state.errors := by
  obtain ⟨state, hstate, rfl⟩ := setFormData_eq_some_iff.mp h
  have hskips : ¬ e.options.validateOnChange = true := by
    rw [hquiet]
    exact Bool.false_ne_true
  rw [follow_eq, if_neg hskips]
  exact congrArg Findings.errors (findings_filled (FormState.errors_fill hstate))

end Engine

namespace Session

/-- The move does more than to attach a renderer or to let a message go. -/
def Move.acts : Move → Bool
  | attachRenderer | expire _ => false
  | _ => true

/-- The moves of turns, but for new renderers and messages that go away. -/
def acts (turns : List Turn) : List Move := (turns.map Turn.move).filter Move.acts

variable {options : EngineOptions} {timed : Bool} {start s next : Session} {move : Move}
  {events : List FormEvent} {trace : List Turn}

/-! ## Runs by their acts -/

/-- Two sessions hold the same form and the same loads. -/
structure SameForm (s next : Session) : Prop where
  content : next.engine.content = s.engine.content
  errors : next.engine.state.errors = s.engine.state.errors
  loads : next.loads = s.loads

theorem SameForm.refl (s : Session) : s.SameForm s := ⟨rfl, rfl, rfl⟩

theorem SameForm.trans (hfirst : start.SameForm s) (hlast : s.SameForm next) :
    start.SameForm next :=
  ⟨hlast.content.trans hfirst.content, hlast.errors.trans hfirst.errors,
    hlast.loads.trans hfirst.loads⟩

theorem Step.sameForm (h : Step s move events next) (hidle : ¬ move.acts = true) :
    s.SameForm next := by
  cases h with
  | attachRenderer => exact ⟨rfl, rfl, rfl⟩
  | expire message =>
    exact ⟨s.engine.content_expire message,
      congrArg Findings.errors (s.engine.findings_expire message), rfl⟩
  | _ => exact absurd rfl hidle

theorem acts_concat (turns : List Turn) (turn : Turn) :
    acts (turns ++ [turn]) = acts turns ++ if turn.move.acts then [turn.move] else [] := by
  rw [acts, List.map_append, List.filter_append]
  show acts turns ++ [turn.move].filter Move.acts = _
  by_cases hacts : turn.move.acts = true
  · rw [List.filter_cons_of_pos hacts, if_pos hacts]
    rfl
  · rw [List.filter_cons_of_neg hacts, if_neg hacts]
    rfl

/-- A run without acts leaves the form and the loads as they are. -/
theorem Run.sameForm (hrun : Run start trace s) (hidle : acts trace = []) : start.SameForm s := by
  induction hrun with
  | rest => exact .refl start
  | turn hrun hstep ih =>
    rw [acts_concat, List.append_eq_nil_iff] at hidle
    refine (ih hidle.1).trans (hstep.sameForm fun hacts => ?_)
    rw [if_pos hacts] at hidle
    cases hidle.2

/-- The last act of a run, with what came before it. What came after it left the form as it was. -/
theorem Run.last_act (hrun : Run start trace s) (earlier : List Move)
    (hacts : acts trace = earlier ++ [move]) :
    ∃ before p told q, Run start before p ∧ acts before = earlier ∧ Step p move told q ∧
      q.SameForm s := by
  induction hrun with
  | rest => exact absurd hacts (by simp [acts])
  | @turn trace s next last events hrun hstep ih =>
    rw [acts_concat] at hacts
    by_cases hlast : last.acts = true
    · rw [if_pos hlast] at hacts
      obtain ⟨hbefore, hmove⟩ := List.append_inj' hacts rfl
      cases hmove
      exact ⟨trace, s, events, next, hrun, hbefore, hstep, .refl next⟩
    · rw [if_neg hlast, List.append_nil] at hacts
      obtain ⟨before, p, told, q, hp, hbefore, hact, hsame⟩ := ih hacts
      exact ⟨before, p, told, q, hp, hbefore, hact, hsame.trans (hstep.sameForm hlast)⟩

/-! ## What is filled in -/

/-- The session holds a form with data, without errors and without widgets of its own. -/
structure Bears (s : Session) (definition : Option FormDefinition) (data : Json) : Prop where
  definition : s.engine.definition = definition
  data : s.engine.state.data = data
  errors : s.engine.state.errors = []
  widgets : s.engine.widgets = .builtins

variable {definition : Option FormDefinition} {data : Json} {d : FormDefinition}

theorem bears_fresh (options : EngineOptions) (timed : Bool) :
    (fresh options timed).Bears none (.obj []) :=
  ⟨rfl, rfl, rfl, rfl⟩

theorem Bears.of_sameForm (h : s.Bears definition data) (hsame : s.SameForm next) :
    next.Bears definition data where
  definition := (congrArg Content.definition hsame.content).trans h.definition
  data := (congrArg Content.data hsame.content).trans h.data
  errors := hsame.errors.trans h.errors
  widgets := (congrArg Content.widgets hsame.content).trans h.widgets

/-- The start of a load keeps what is held. -/
theorem Step.bears_startLoad {n : Nat} {source : FormSource}
    (h : Step s (.startLoad n source) events next) (hs : s.Bears definition data) :
    next.Bears definition data := by
  cases h with
  | startLoad source hn =>
    have hcontent := s.engine.content_beginLoad
    exact ⟨(congrArg Content.definition hcontent).trans hs.definition,
      (congrArg Content.data hcontent).trans hs.data,
      (congrArg Findings.errors s.engine.findings_beginLoad).trans hs.errors,
      (congrArg Content.widgets hcontent).trans hs.widgets⟩

/-- Of a form without defaults nothing is put in. -/
theorem sown_of_no_defaults {e : Engine}
    (hdefaults : ∀ field ∈ d.fields, field.defaultValue = none) : e.sown d = [] := by
  refine sown_eq_nil fun field hfield hvalue => ?_
  rw [hdefaults field hfield] at hvalue
  cases hvalue

/-- A form without defaults that is taken up leaves the data as they are. -/
theorem Step.bears_installs (h : Step s move events next) (hinstalls : s.Installs move next d)
    (hdefaults : ∀ field ∈ d.fields, field.defaultValue = none) (hs : s.Bears definition data) :
    next.Bears (some d) data := by
  obtain ⟨v, done, hdone, -, hleft⟩ := h.installs_eq hinstalls
  have hdata : next.engine.state.data = s.engine.state.data := by
    rw [h.data_installs hinstalls, sown_of_no_defaults hdefaults]
    rfl
  obtain ⟨sown, hsown, hcontent⟩ := Engine.content_install hdone
  rw [Engine.content_seedDefaults hsown, ← Engine.content_drain done, hleft] at hcontent
  have herrors : next.engine.state.errors = s.engine.state.errors := by
    have hfindings := Engine.findings_install hdone
    rw [← hleft]
    exact congrArg Findings.errors hfindings
  exact ⟨congrArg Content.definition hcontent, hdata.trans hs.data, herrors.trans hs.errors,
    (congrArg Content.widgets hcontent).trans hs.widgets⟩

/-- Values that are put in without a validation leave no errors, and the view is made of them. -/
theorem Step.bears_setFormData {m : Keyed Json}
    (h : Step s (.call (.setFormData m)) events next) (hs : s.Bears definition (.obj []))
    (hordered : m.Ordered) (hdots : ∀ entry ∈ m, '.' ∉ entry.1.toList)
    (hquiet : s.engine.options.validateOnChange = false) :
    next.Bears definition (.obj m) ∧ next.engine.content.Drawn := by
  obtain ⟨done, hdone, -, hleft⟩ := h.setFormData_eq
  have hcontent : next.engine.content =
      { s.engine.content with data := .obj m }.refreshed := by
    rw [← hleft, Engine.content_drain, Engine.content_setFormData hdone,
      ← Json.foldl_set hordered hdots, ← hs.data]
    rfl
  have herrors : next.engine.state.errors = s.engine.state.errors := by
    have herrors := Engine.errors_setFormData hquiet hdone
    rw [← hleft]
    exact herrors
  refine ⟨⟨?_, congrArg Content.data hcontent, herrors.trans hs.errors, ?_⟩, ?_⟩
  · exact (congrArg Content.definition hcontent).trans hs.definition
  · exact (congrArg Content.widgets hcontent).trans hs.widgets
  · rw [hcontent]
    exact Content.drawn_refreshed _

/-! ## Renderers -/

theorem Notice.isSome_drawn_tell (n : Notice) (text : String) (kind : MessageKind) :
    (n.tell text kind).drawn.isSome = n.drawn.isSome := Option.isSome_map ..

theorem Notice.isSome_drawn_clear (n : Notice) : n.clear.drawn.isSome = n.drawn.isSome := by
  unfold Notice.clear
  split
  · exact Option.isSome_map ..
  · rfl

/-- Once there is something to draw on, it stays. -/
theorem Step.isSome_drawing (h : Step s move events next)
    (hs : s.engine.drawing.isSome = true ∨ move = .attachRenderer) :
    next.engine.drawing.isSome = true := by
  rcases hs with hs | rfl
  · have hdrawn (e : Engine) : e.drawing.isSome = e.notice.drawn.isSome :=
      (Option.isSome_map ..).symm
    rw [hdrawn] at hs ⊢
    rcases h.notice_cases with heq | ⟨text, kind, heq⟩ | heq | ⟨-, heq⟩
    · rw [heq]
      exact hs
    · rw [heq, Notice.isSome_drawn_tell]
      exact hs
    · rw [heq, Notice.isSome_drawn_clear]
      exact hs
    · rw [heq]
      rfl
  · cases h
    rfl

theorem Run.isSome_drawing (hrun : Run start trace s)
    (hattach : ∃ turn ∈ trace, turn.move = .attachRenderer) : s.engine.drawing.isSome = true := by
  induction hrun with
  | rest =>
    obtain ⟨turn, hturn, -⟩ := hattach
    cases hturn
  | turn hrun hstep ih =>
    obtain ⟨turn, hturn, hmove⟩ := hattach
    rcases List.mem_append.mp hturn with hbefore | hlast
    · exact hstep.isSome_drawing (.inl (ih ⟨turn, hbefore, hmove⟩))
    · rw [List.mem_singleton.mp hlast] at hmove
      exact hstep.isSome_drawing (.inr hmove)

/-! ## The form that was filled in -/

variable {source : FormSource} {answer : Except TransportError FormDefinition} {m : Keyed Json}

/-- A run whose only act is the start of a load has that load, which waits. -/
theorem Run.bears_started (hrun : Run (.fresh options timed) trace s)
    (hacts : acts trace = [.startLoad 0 source]) :
    s.Bears none (.obj []) ∧ s.loads = [.fetching s.engine.loads source] := by
  obtain ⟨before, p, told, q, hp, hnone, hstep, hsame⟩ := hrun.last_act [] hacts
  have hidle := hp.sameForm hnone
  have hstarted := hstep.bears_startLoad ((bears_fresh options timed).of_sameForm hidle)
  refine ⟨hstarted.of_sameForm hsame, ?_⟩
  have hloads : s.loads = [.fetching p.engine.beginLoad.1 source] := by
    cases hstep with
    | startLoad source hn =>
      refine hsame.loads.trans ?_
      rw [hidle.loads]
      rfl
  -- The load is the only one, so that the engine counts to its number.
  have hstage : s.loads[0]? = some (.fetching p.engine.beginLoad.1 source) := by rw [hloads]; rfl
  have hlast : ¬ Overtaken trace 0 := by
    rw [hrun.overtaken_iff rfl, hloads]
    exact Nat.lt_irrefl 1
  rw [hrun.loads_eq hstage hlast, hloads]

/-- A run that loads a form which can be used, and has no defaults, takes it up with no data. -/
theorem Run.bears_loaded (hrun : Run (.fresh options timed) trace s)
    (hacts : acts trace = [.startLoad 0 source, .finishLoad 0 answer])
    (harrived : source.arrived answer = .ok d) (husable : d.Usable)
    (hdefaults : ∀ field ∈ d.fields, field.defaultValue = none) :
    s.Bears (some d) (.obj []) ∧ s.loads = [.ended (.loaded d.formId)] := by
  obtain ⟨before, p, told, q, hp, hstarted, hstep, hsame⟩ :=
    hrun.last_act [.startLoad 0 source] hacts
  obtain ⟨hbears, hloads⟩ := hp.bears_started hstarted
  have hstage : p.loads[0]? = some (.fetching p.engine.loads source) := by rw [hloads]; rfl
  have hended : q.loads = [.ended (.loaded d.formId)] := by
    cases hstep with
    | finishLoad _ _ hstage' hfinish =>
      cases hstage.symm.trans hstage'
      obtain ⟨v, htaken⟩ := Engine.finishLoad_usable husable p.engine rfl
      rw [harrived] at hfinish
      obtain ⟨done, -, heq⟩ := Option.map_eq_some_iff.mp (htaken.symm.trans hfinish)
      cases heq
      rw [hloads]
      rfl
  have htaken : q.TakenUp 0 := ⟨d.formId, by rw [hended]; rfl⟩
  have hinstalls : p.Installs (.finishLoad 0 answer) q d :=
    ⟨0, answer, p.engine.loads, source, rfl, hstage, harrived, htaken⟩
  exact ⟨(hstep.bears_installs hinstalls hdefaults hbears).of_sameForm hsame,
    hsame.loads.trans hended⟩

/-- A run that then puts values in, without a validation, holds them, and its view is made of them.
-/
theorem Run.bears_filled (hrun : Run (.fresh options timed) trace s)
    (hacts : acts trace = [.startLoad 0 source, .finishLoad 0 answer, .call (.setFormData m)])
    (harrived : source.arrived answer = .ok d) (husable : d.Usable)
    (hdefaults : ∀ field ∈ d.fields, field.defaultValue = none) (hordered : m.Ordered)
    (hdots : ∀ entry ∈ m, '.' ∉ entry.1.toList) (hquiet : options.validateOnChange = false) :
    s.Bears (some d) (.obj m) ∧ s.engine.content.Drawn ∧
      s.loads = [.ended (.loaded d.formId)] := by
  obtain ⟨before, p, told, q, hp, hloaded, hstep, hsame⟩ :=
    hrun.last_act [.startLoad 0 source, .finishLoad 0 answer] hacts
  obtain ⟨hbears, hloads⟩ := hp.bears_loaded hloaded harrived husable hdefaults
  have hoptions : p.engine.options.validateOnChange = false := by rw [hp.options_eq, hquiet]
  obtain ⟨hfilled, hdrawn⟩ := hstep.bears_setFormData hbears hordered hdots hoptions
  have hkept : q.loads = p.loads := by
    cases hstep
    rfl
  refine ⟨hfilled.of_sameForm hsame, ?_, (hsame.loads.trans hkept).trans hloads⟩
  rw [hsame.content]
  exact hdrawn

/-- A form that can be used and has no defaults is loaded, and values at names without a dot are put
in: nothing of it stops. A renderer may be attached in between. -/
theorem exists_filled (options : EngineOptions) (timed : Bool)
    (harrived : source.arrived answer = .ok d) (husable : d.Usable)
    (hdefaults : ∀ field ∈ d.fields, field.defaultValue = none)
    (hdots : ∀ entry ∈ m, '.' ∉ entry.1.toList) :
    ∃ trace s, Run (.fresh options timed) trace s ∧
      acts trace = [.startLoad 0 source, .finishLoad 0 answer, .call (.setFormData m)] ∧
      ∃ turn ∈ trace, turn.move = .attachRenderer := by
  obtain ⟨trace, p, hstarted, hacts⟩ : ∃ trace p, Run (.fresh options timed) trace p ∧
      acts trace = [.startLoad 0 source] :=
    ⟨_, _, (Run.rest : Run (.fresh options timed) [] _).turn (.startLoad source rfl), rfl⟩
  obtain ⟨-, hloads⟩ := hstarted.bears_started hacts
  have hstage : p.loads[0]? = some (.fetching p.engine.loads source) := by rw [hloads]; rfl
  have hends : (p.engine.finishLoad p.engine.loads (source.arrived answer)).isSome = true := by
    rw [harrived, Engine.isSome_finishLoad_usable husable p.engine rfl,
      sown_of_no_defaults hdefaults]
    exact Json.allWritable_nil _
  obtain ⟨told, q, hend⟩ := (exists_step_finishLoad_iff hstage).mpr hends
  obtain ⟨before, r, hattached, hloaded, turn, hturn, hattach⟩ : ∃ before r,
      Run (.fresh options timed) before r ∧
      acts before = [.startLoad 0 source, .finishLoad 0 answer] ∧
      ∃ turn ∈ before, turn.move = .attachRenderer := by
    refine ⟨_, _, (hstarted.turn hend).turn .attachRenderer, ?_, ⟨.attachRenderer, []⟩, by simp, rfl⟩
    rw [acts_concat, acts_concat, hacts]
    rfl
  obtain ⟨hbears, -⟩ := hattached.bears_loaded hloaded harrived husable hdefaults
  have hroom : (r.engine.obey (.setFormData m)).isSome = true := by
    rw [Engine.isSome_obey_setFormData_iff, hbears.data]
    exact Json.allWritable_of_not_mem hdots []
  obtain ⟨events, s, hfill⟩ := exists_step_call_iff.mpr hroom
  refine ⟨_, s, hattached.turn hfill, ?_, turn, List.mem_append_left _ hturn, hattach⟩
  rw [acts_concat, hloaded]
  rfl

/-- What a session that holds a form with data draws of it is the preview. -/
theorem Run.preview_eq (hrun : Run (.fresh options timed) trace s) (hs : s.Bears (some d) (.obj m))
    (hdrawn : s.engine.content.Drawn) : d.preview (.obj m) = .ok s.engine.outline := by
  have hcoherent := hrun.coherent
  have hview := hcoherent.resolve_eq hdrawn hs.definition
  have hshown : s.engine.visibility = visibilityMap d.fields (.obj m) := by
    have hmap : s.engine.visibility = s.engine.content.shown := hcoherent.shown
    rw [hmap, Content.shown, show s.engine.content.definition = some d from hs.definition,
      show s.engine.content.data = .obj m from hs.data]
  have hresolved : d.layout.resolve ⟨d, visibilityMap d.fields (.obj m), .builtins⟩
      maxLayoutDepth = .ok s.engine.view := by
    rw [← hshown, ← hs.widgets]
    exact hview
  have houtline : s.engine.outline =
      (s.engine.view.map fun v => v.outline (FormState.ofData m)).getD "" := by
    have hlines (v : ViewNode) :
        v.outline s.engine.state = v.outline (FormState.ofData m) :=
      v.outline_congr hs.data hs.errors
    simp only [Engine.outline, hlines]
  rw [FormDefinition.preview, houtline]
  show (d.layout.resolve ⟨d, visibilityMap d.fields (.obj m), .builtins⟩ maxLayoutDepth).map _ = _
  rw [hresolved]
  rfl

end Session

namespace Store

open Session

variable {s : Store} {k : String} {d : FormDefinition} {options : EngineOptions} {timed : Bool}
  {source : FormSource} {answer : Except TransportError FormDefinition} {m : Keyed Json}

/-- A request for the preview of a form is answered by the route of previews. -/
theorem respond_preview {r : Http.Request} (stamp : Stamp) {path : String}
    (hmethod : r.method = .post) (hroute : Route.ofTarget? r.target = some (.preview path))
    (hid : Http.decodeSegment? path = some k) :
    s.respond r stamp = s.perform r stamp k (.preview path) := by
  have hoptions : ¬ r.method = .options := by rw [hmethod]; nofun
  have hhead : ¬ r.method = .head := by rw [hmethod]; nofun
  have hallowed : (Route.preview path).allows r.method = true := decide_eq_true hmethod
  have hdecoded : Http.decodeSegment? ((Route.preview path).id?.getD "") = some k := hid
  simp only [respond, if_neg hoptions, hroute, hallowed, hdecoded, if_neg hhead]
  rfl

/-- The preview of a stored form without defaults, for an object none of whose keys has a dot, is
what any renderer draws that was attached to a fresh engine, after this loaded the form and took the
object for its data. Neither of the two stops. -/
theorem Reached.preview_live (h : s.Reached) (hform : s.form? k = some d)
    (hdefaults : ∀ field ∈ d.fields, field.defaultValue = none) (hordered : m.Ordered)
    (hdots : ∀ entry ∈ m, '.' ∉ entry.1.toList) (hquiet : options.validateOnChange = false)
    (harrived : source.arrived answer = .ok d) :
    (∃ trace session, Run (.fresh options timed) trace session ∧
      acts trace = [.startLoad 0 source, .finishLoad 0 answer, .call (.setFormData m)] ∧
      ∃ turn ∈ trace, turn.move = .attachRenderer) ∧
    ∀ trace session, Run (.fresh options timed) trace session →
      acts trace = [.startLoad 0 source, .finishLoad 0 answer, .call (.setFormData m)] →
      (∃ turn ∈ trace, turn.move = .attachRenderer) →
      session.loads = [.ended (.loaded k)] ∧
      ∃ drawing, session.engine.drawing = some drawing ∧
        ∀ (r : Http.Request) (stamp : Stamp) (path : String), r.method = .post →
          Route.ofTarget? r.target = some (.preview path) → Http.decodeSegment? path = some k →
          r.structure? Payload.record = .ok ⟨.obj m⟩ →
          s.respond r stamp = (⟨200, .text drawing.outline⟩, s) := by
  obtain ⟨rfl, husable⟩ := h.usable k d hform
  refine ⟨exists_filled options timed harrived husable hdefaults hdots, ?_⟩
  intro trace session hrun hacts hattach
  obtain ⟨hbears, hdrawn, hloads⟩ :=
    hrun.bears_filled hacts harrived husable hdefaults hordered hdots hquiet
  obtain ⟨drawing, hdrawing⟩ := Option.isSome_iff_exists.mp (hrun.isSome_drawing hattach)
  have hpainted : session.engine.Painted := hrun.keeps (fun _ _ _ _ hs h => h.painted hs) nofun
  obtain ⟨text, htext, hanswer⟩ := h.usable.perform_preview hform (.obj m)
  have hsame : text = drawing.outline := by
    rw [hrun.preview_eq hbears hdrawn] at htext
    rw [hpainted drawing hdrawing]
    exact (Except.ok.inj htext).symm
  refine ⟨hloads, drawing, hdrawing, ?_⟩
  intro r stamp path hmethod hroute hid hpayload
  rw [respond_preview stamp hmethod hroute hid, hanswer r stamp path hpayload, hsame]

/-- A request for the preview of the note form with a text. -/
def noteRequest : Http.Request where
  method := .post
  target := "/api/forms/note/preview"
  contentType := some "application/json"
  body := "\x7b\"data\": \x7b\"text\": \"x\"\x7d\x7d"

/-- A store with the note form answers with what a renderer draws that was attached to an engine
between its load and its data. -/
theorem preview_live_noteForm :
    ∃ s trace session drawing, Reached s ∧ s.form? "note" = some noteForm ∧
      Run (.fresh { validateOnChange := false } true) trace session ∧
      acts trace = [.startLoad 0 (.id "note"), .finishLoad 0 (s.fetchDefinition "note"),
        .call (.setFormData [("text", .str "x")])] ∧
      session.engine.drawing = some drawing ∧ drawing.outline = "<div #root>\n   [text]: x\n" ∧
      s.respond noteRequest ⟨"", ""⟩ = (⟨200, .text "<div #root>\n   [text]: x\n"⟩, s) := by
  have hreached : Reached (seeded.put "note" noteForm).2 := Reached.seeded.put "note" noteForm
  have hform : (seeded.put "note" noteForm).2.form? "note" = some noteForm :=
    form?_put_of_accepts rfl
  have harrived := fetchDefinition_of_some hform
  obtain ⟨trace, session, hrun, hacts, hattach, houtline⟩ : ∃ trace session,
      Run (.fresh { validateOnChange := false } true) trace session ∧
      acts trace = [.startLoad 0 (.id "note"), .finishLoad 0 (.ok noteForm),
        .call (.setFormData [("text", .str "x")])] ∧
      (∃ turn ∈ trace, turn.move = .attachRenderer) ∧
      session.engine.drawing.map Drawing.outline = some "<div #root>\n   [text]: x\n" := by
    have hloaded := ((Run.rest : Run (.fresh { validateOnChange := false } true) [] _).turn
      (.startLoad (.id "note") rfl)).turn (step_arriving 0 (.ok noteForm) rfl rfl)
    have hdrawn := (hloaded.turn .attachRenderer).turn
      (step_calling (.setFormData [("text", .str "x")]) rfl)
    exact ⟨_, _, hdrawn, rfl, ⟨⟨.attachRenderer, []⟩, by simp, rfl⟩, rfl⟩
  have hpayload : noteRequest.structure? Payload.record = .ok ⟨.obj [("text", .str "x")]⟩ := by
    have hread : (noteRequest.structure? Payload.record).toOption =
        some ⟨.obj [("text", .str "x")]⟩ := by decide +kernel
    cases hstructure : noteRequest.structure? Payload.record with
    | error code =>
      rw [hstructure] at hread
      cases hread
    | ok payload =>
      rw [hstructure] at hread
      exact congrArg Except.ok (Option.some.inj hread)
  have hsource : (FormSource.id "note").arrived
      ((seeded.put "note" noteForm).2.fetchDefinition "note") = .ok noteForm := by
    rw [harrived]
    rfl
  rw [← harrived] at hacts
  have hdefaults : ∀ field ∈ noteForm.fields, field.defaultValue = none := by simp [noteForm]
  have hordered : Keyed.Ordered [("text", Json.str "x")] := List.pairwise_singleton _ _
  have hdots : ∀ entry ∈ [("text", Json.str "x")], '.' ∉ entry.1.toList := by simp
  obtain ⟨-, drawing, hdrawing, hanswer⟩ :=
    (hreached.preview_live hform hdefaults hordered hdots rfl hsource).2 trace session hrun hacts
      hattach
  rw [hdrawing] at houtline
  have htext := Option.some.inj houtline
  have hrespond := hanswer noteRequest ⟨"", ""⟩ "note" rfl (by decide +kernel)
    (by decide +kernel) hpayload
  rw [htext] at hrespond
  exact ⟨_, trace, session, drawing, hreached, hform, hrun, hacts, hdrawing, htext, hrespond⟩

end Store

end LiveForm
