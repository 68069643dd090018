import LiveForm.Proofs.Session.Basic

/-!
# What is shown stays current

Between any two moves of a session the map of what is shown belongs to the definition and the data
as they are, and the view is what the layout resolves to with that map and the widgets that are
registered. Widgets have to be registered before the first load: a registration alone does not make
the view anew. Until a definition is taken up there is nothing to be seen.

A definition is checked when it is taken up, so that no resolution of its layout ever fails.
-/

namespace LiveForm.Session

/-- No widget is registered after the start of a load. -/
def WidgetsFirst (trace : List Turn) : Prop :=
  trace.Pairwise fun earlier later =>
    earlier.move.startsLoad = true → later.move.addsWidget = false

variable {options : EngineOptions} {timed : Bool} {s next : Session} {move : Move}
  {events : List FormEvent} {trace : List Turn}

/-! ## The map -/

/-- Every step keeps the content coherent. -/
theorem Step.coherent (h : Step s move events next) (hs : s.engine.content.Coherent) :
    next.engine.content.Coherent := by
  rcases h.content_cases with
    heq | heq | heq | ⟨c, answer, done, -, hdone, heq⟩ | ⟨kind, widget, -, heq⟩ |
      ⟨d, v, done, hcheck, -, hdone, heq⟩
  · rw [heq]
    exact hs
  · rw [heq]
    exact hs.redrawn
  · rw [heq]
    exact Content.coherent_refreshed hs.accepted ⟨[], rfl⟩
  · rw [heq]
    exact Engine.coherent_perform hs hdone
  · rw [heq]
    exact ⟨hs.shown, hs.accepted, hs.object⟩
  · rw [heq]
    exact Engine.coherent_install (e := { s.engine with validator := v }) hs hcheck hdone

/-- The content of a session is coherent between any two moves. -/
theorem Run.coherent (hrun : Run (.fresh options timed) trace s) : s.engine.content.Coherent :=
  hrun.keeps (fun _ _ _ _ hs h => h.coherent hs) ⟨rfl, nofun, ⟨[], rfl⟩⟩

/-! ## The view -/

/-- As long as no load was started there is no definition. -/
theorem Step.unloaded (h : Step s move events next) (hmove : move.startsLoad = false)
    (hloads : s.loads = []) (hnone : s.engine.definition = none) :
    next.loads = [] ∧ next.engine.definition = none := by
  constructor
  · cases h with
    | startLoad source hn => cases hmove
    | finishLoad n answer hstage => rw [hloads] at hstage; cases hstage
    | dropLoad n hstage => rw [hloads] at hstage; cases hstage
    | _ => exact hloads
  · show next.engine.content.definition = none
    replace hnone : s.engine.content.definition = none := hnone
    rcases h.content_cases with
      heq | heq | heq | ⟨c, answer, done, -, hdone, heq⟩ | ⟨kind, widget, -, heq⟩ |
      ⟨d, v, done, -, ⟨n, answer, rfl⟩, -⟩
    · rw [heq, hnone]
    · rw [heq]
      exact hnone
    · rw [heq]
      exact hnone
    · rw [heq, Engine.content_perform hdone]
      exact hnone
    · rw [heq]
      exact hnone
    · -- No load waits that could end.
      cases h with
      | finishLoad n answer hstage => rw [hloads] at hstage; cases hstage

theorem Run.unloaded (hrun : Run (.fresh options timed) trace s)
    (hnever : ∀ turn ∈ trace, turn.move.startsLoad = false) :
    s.loads = [] ∧ s.engine.definition = none := by
  induction hrun with
  | rest => exact ⟨rfl, rfl⟩
  | turn hrun hstep ih =>
    obtain ⟨hloads, hnone⟩ := ih fun turn hturn => hnever turn (List.mem_append_left _ hturn)
    exact hstep.unloaded (hnever _ (List.mem_append_right _ (List.mem_singleton.mpr rfl)))
      hloads hnone

/-- A step leaves the view drawn, unless it registers a widget while there is a definition. -/
theorem Step.drawn (h : Step s move events next) (hs : s.engine.content.Drawn)
    (hmove : move.addsWidget = false ∨ s.engine.definition = none) :
    next.engine.content.Drawn := by
  rcases h.content_cases with
    heq | heq | heq | ⟨c, answer, done, -, hdone, heq⟩ | ⟨kind, widget, rfl, heq⟩ |
      ⟨d, v, done, -, -, hdone, heq⟩
  · rw [heq]
    exact hs
  · rw [heq]
    exact Content.drawn_redrawn _
  · rw [heq]
    exact Content.drawn_refreshed _
  · rw [heq]
    exact Engine.drawn_perform hs hdone
  · rcases hmove with hmove | hnone
    · cases hmove
    · -- Without a definition nothing is resolved, whichever widgets there are.
      have hview : s.engine.content.view = none := by
        rw [hs, Content.resolved, show s.engine.content.definition = none from hnone]
        rfl
      rw [heq]
      show s.engine.content.view = s.engine.content.definition.bind _
      rw [hview, show s.engine.content.definition = none from hnone]
      rfl
  · rw [heq]
    exact Engine.drawn_install hdone

theorem Run.drawn (hrun : Run (.fresh options timed) trace s) (hfirst : WidgetsFirst trace) :
    s.engine.content.Drawn := by
  induction hrun with
  | rest => rfl
  | @turn trace s next move events hrun hstep ih =>
    obtain ⟨hbefore, -, hlast⟩ := List.pairwise_append.mp hfirst
    refine hstep.drawn (ih hbefore) ?_
    cases hadds : move.addsWidget with
    | false => exact .inl rfl
    | true =>
      -- No load can have been started before this registration.
      refine .inr (hrun.unloaded fun turn hturn => ?_).2
      cases hstarts : turn.move.startsLoad with
      | false => rfl
      | true =>
        have hlate : move.addsWidget = false :=
          hlast turn hturn _ (List.mem_singleton.mpr rfl) hstarts
        rw [hadds] at hlate
        cases hlate

/-- Between any two moves, either no definition was taken up and nothing is shown, or the map of
what is shown is the one of the definition and the data, and the view is what the layout resolves to
with this map and the registered widgets. The layout resolves with any map and any widgets. -/
theorem Run.view_current (hrun : Run (.fresh options timed) trace s)
    (hfirst : WidgetsFirst trace) :
    (s.engine.definition = none ∧ s.engine.visibility = [] ∧ s.engine.view = none) ∨
    ∃ d, s.engine.definition = some d ∧
      s.engine.visibility = visibilityMap d.fields s.engine.state.data ∧
      d.layout.resolve ⟨d, s.engine.visibility, s.engine.widgets⟩ maxLayoutDepth =
        .ok s.engine.view ∧
      ∀ ctx, ∃ view, d.layout.resolve ctx maxLayoutDepth = .ok view := by
  have hcoherent := hrun.coherent
  have hdrawn := hrun.drawn hfirst
  have hshown : s.engine.visibility = s.engine.content.shown := hcoherent.shown
  have hview : s.engine.view = s.engine.content.resolved := hdrawn
  cases hd : s.engine.definition with
  | none =>
    left
    rw [hshown, hview, Content.shown, Content.resolved,
      show s.engine.content.definition = none from hd]
    exact ⟨rfl, rfl, rfl⟩
  | some d =>
    have hcontent : s.engine.content.definition = some d := hd
    refine .inr ⟨d, rfl, ?_, hcoherent.resolve_eq hdrawn hcontent,
      hcoherent.exists_resolve hcontent⟩
    rw [hshown, Content.shown, hcontent]
    rfl

/-- A form that was loaded and edited shows what its data say. -/
theorem view_current_noteForm :
    ∃ trace s, Run (.fresh {} true) trace s ∧ WidgetsFirst trace ∧
      s.engine.state.value? "text" = some (.str "x") ∧
      s.engine.visibility = visibilityMap noteForm.fields s.engine.state.data ∧
      noteForm.layout.resolve ⟨noteForm, s.engine.visibility, s.engine.widgets⟩ maxLayoutDepth =
        .ok s.engine.view := by
  have hloaded := (Run.rest : Run (.fresh {} true) [] _).turn (.startLoad (.definition noteForm) rfl)
    |>.turn (step_arriving 0 (.error (.unavailable "")) rfl rfl)
  have hrun := hloaded.turn (step_calling (.setValue "text" (.str "x")) rfl)
  refine ⟨_, _, hrun, by simp [WidgetsFirst, Move.addsWidget], rfl, ?_⟩
  rcases hrun.view_current (by simp [WidgetsFirst, Move.addsWidget]) with
    ⟨hnone, -⟩ | ⟨d, hd, hshown, hview, -⟩
  · cases hnone
  · cases hd
    exact ⟨hshown, hview⟩

end LiveForm.Session
