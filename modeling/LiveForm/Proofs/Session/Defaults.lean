import LiveForm.Proofs.Engine.Seeding
import LiveForm.Proofs.Session.FailedLoad

/-!
# Defaults come once

A default is put in when a form is taken up whose field carries it, and the identifier of the field
has its chance with that. Forms can be loaded again or replaced, fields renamed, values edited and
taken away: `seeded` only grows, so that no load puts in a default under an identifier that had its
chance (`Run.sown_once`). A load that brings no new such identifier leaves the data as they are. A
load never marks or blames a field, and tells of no change of its value.
-/

namespace LiveForm

namespace FormEvent

/-- The event tells of a value, of an error, or of a reset. -/
def aboutFilling (event : FormEvent) : Bool :=
  event.kind == .fieldChange || event.kind == .errorChange || event.kind == .formReset

end FormEvent

namespace Session

/-- A step takes up a definition. -/
def Installs (s : Session) (move : Move) (next : Session) (d : FormDefinition) : Prop :=
  ∃ n answer number source, move = .finishLoad n answer ∧
    s.loads[n]? = some (.fetching number source) ∧ source.arrived answer = .ok d ∧ next.TakenUp n

/-- A definition that was taken up in the course of a run carried a default for the field. -/
def Carried (start s : Session) (trace : List Turn) (id : String) : Prop :=
  ∃ before p move told q after d, trace = before ++ ⟨move, told⟩ :: after ∧
    Run start before p ∧ Step p move told q ∧ Run q after s ∧ p.Installs move q d ∧ d.Defaults id

variable {options : EngineOptions} {timed : Bool} {start p q s next : Session} {move last : Move}
  {events told : List FormEvent} {before after trace : List Turn} {d later : FormDefinition}
  {id : String}

/-! ## Steps -/

/-- A step that takes up a definition is the installation of it. -/
theorem Step.installs_eq (h : Step s move events next) (hinstalls : s.Installs move next d) :
    ∃ v done, ({ s.engine with validator := v }).install d = some done ∧ done.drain.1 = events ∧
      done.drain.2 = next.engine := by
  obtain ⟨n, answer, number, source, rfl, hstage, harrived, formId, htaken⟩ := hinstalls
  obtain ⟨number', source', outcome, hstage', hfinish, hended⟩ := h.finishLoad_eq
  cases hstage.symm.trans hstage'
  obtain rfl : outcome = .loaded formId :=
    LoadStage.ended.inj (Option.some.inj (hended.symm.trans htaken))
  obtain ⟨done, v, htold, hleft,
    ⟨-, hsuperseded, -⟩ | ⟨-, d', harrived', -, hdone, -⟩ | ⟨-, error, hfailed, -⟩⟩ :=
    Engine.finishLoad_eq_some hfinish
  · cases hsuperseded
  · cases harrived.symm.trans harrived'
    exact ⟨v, done, hdone, htold, hleft⟩
  · cases hfailed

/-- Whoever had a chance keeps having had it. -/
theorem Step.seeded_subset (h : Step s move events next) :
    s.engine.seeded ⊆ next.engine.seeded := by
  intro id hid
  show id ∈ next.engine.content.seeded
  rcases h.content_cases with
    heq | heq | heq | ⟨c, answer, done, -, hdone, heq⟩ | ⟨kind, widget, -, heq⟩ |
      ⟨d, v, done, -, -, hdone, heq⟩
  · rw [heq]
    exact hid
  · rw [heq]
    exact hid
  · rw [heq]
    exact hid
  · rw [heq, Engine.content_perform hdone]
    exact hid
  · rw [heq]
    exact hid
  · rw [heq]
    exact (Engine.mem_seeded_install hdone id).mpr (.inl hid)

/-- The data change by what is sown. -/
theorem Step.data_installs (h : Step s move events next) (hinstalls : s.Installs move next d) :
    next.engine.state.data = s.engine.state.data.sow (s.engine.sown d) := by
  obtain ⟨v, done, hdone, -, hleft⟩ := h.installs_eq hinstalls
  have hdata := Engine.data_install hdone
  rw [← hleft]
  exact hdata

/-- All fields that carry a default have their chance. -/
theorem Step.mem_seeded_installs (h : Step s move events next)
    (hinstalls : s.Installs move next d) (hid : d.Defaults id) : id ∈ next.engine.seeded := by
  obtain ⟨v, done, hdone, -, hleft⟩ := h.installs_eq hinstalls
  rw [← hleft]
  exact (Engine.mem_seeded_install hdone id).mpr (.inr hid)

/-- What a user marked and was told to be wrong stays, and no event tells otherwise. -/
structure Spares (s : Session) (events : List FormEvent) (next : Session) : Prop where
  touched : next.engine.state.touched = s.engine.state.touched
  errors : next.engine.state.errors = s.engine.state.errors
  quiet : ∀ event ∈ events, event.aboutFilling = false

theorem quiet_status (before after : FormStatus) :
    ∀ event ∈ (if before = after then [] else [FormEvent.statusChange before after]),
      event.aboutFilling = false := by
  intro event hevent
  split at hevent
  · cases hevent
  · rw [List.mem_singleton.mp hevent]
    rfl

/-- The start of a load tells of the status and of a message. -/
theorem Step.spares_startLoad {n : Nat} {source : FormSource}
    (h : Step s (.startLoad n source) events next) (hsettled : s.engine.Settled) :
    s.Spares events next := by
  cases h with
  | startLoad source hn =>
    have hstarted := s.engine.beginLoad_eq
    rw [hsettled.drain_eq, List.nil_append] at hstarted
    rw [hstarted]
    split
    · refine ⟨rfl, rfl, List.forall_mem_append.mpr ⟨quiet_status _ _, ?_⟩⟩
      exact List.forall_mem_singleton.mpr rfl
    · exact ⟨rfl, rfl, quiet_status _ _⟩

/-- The end of a load tells of a fresh view, of the status and of the form, or of the status, a
message and an error. -/
theorem Step.spares_finishLoad {n : Nat} {answer : Except TransportError FormDefinition}
    (h : Step s (.finishLoad n answer) events next) (hsettled : s.engine.Settled) :
    s.Spares events next := by
  obtain ⟨number, source, outcome, -, hfinish, -⟩ := h.finishLoad_eq
  obtain ⟨done, v, rfl, hleft, ⟨-, -, rfl⟩ | ⟨-, d, -, -, hdone, -⟩ | ⟨-, error, -, rfl⟩⟩ :=
    Engine.finishLoad_eq_some hfinish
  · have hchecked : ({ s.engine with validator := v }).Settled := hsettled
    rw [hchecked.drain_eq] at hleft ⊢
    refine ⟨?_, ?_, nofun⟩ <;> rw [← hleft]
  · have hnothing : ({ s.engine with validator := v }).drain.1 = [] := hsettled
    have htouched := Engine.touched_install hdone
    have hfindings := Engine.findings_install hdone
    refine ⟨?_, ?_, ?_⟩
    · rw [← hleft]
      exact htouched
    · rw [← hleft]
      exact congrArg Findings.errors hfindings
    · rw [Engine.drain_install hdone, hnothing, List.nil_append]
      refine List.forall_mem_append.mpr ⟨List.forall_mem_append.mpr ⟨?_, quiet_status _ _⟩, ?_⟩
      · exact List.forall_mem_singleton.mpr rfl
      · exact List.forall_mem_singleton.mpr rfl
  · have hchecked : ({ s.engine with validator := v }).Settled := hsettled
    rw [Engine.drain_failLoad, hchecked.drain_eq] at hleft
    rw [Engine.drain_failLoad, hchecked.drain_eq, List.nil_append]
    refine ⟨?_, ?_, List.forall_mem_append.mpr ⟨quiet_status _ _, ?_⟩⟩
    · rw [← hleft]
      rfl
    · rw [← hleft]
      rfl
    · exact List.forall_mem_cons.mpr ⟨rfl, List.forall_mem_singleton.mpr rfl⟩

/-- No move of a load touches what a user marked, or what was found wrong. -/
theorem Step.spares (h : Step s move events next) (hsettled : s.engine.Settled)
    (hmove : move.load?.isSome = true) : s.Spares events next := by
  cases h with
  | startLoad source hn => exact Step.spares_startLoad (.startLoad source hn) hsettled
  | finishLoad n answer hstage hfinish =>
    exact Step.spares_finishLoad (.finishLoad n answer hstage hfinish) hsettled
  | dropLoad n hstage => exact ⟨rfl, rfl, nofun⟩
  | _ => cases hmove

/-- A move of a load takes up a definition, or leaves the data as they are. -/
theorem Step.data_load (h : Step s move events next) (hmove : move.load?.isSome = true) :
    (∃ d, s.Installs move next d) ∨ next.engine.state.data = s.engine.state.data := by
  cases h with
  | startLoad source hn => exact .inr (congrArg Content.data s.engine.content_beginLoad)
  | @finishLoad n number source answer outcome _ _ hstage hfinish =>
    have hended (stage : LoadStage) : (s.loads.set n stage)[n]? = some stage :=
      List.getElem?_set_self (List.getElem?_eq_some_iff.mp hstage).1
    obtain ⟨done, v, rfl, rfl,
      ⟨-, rfl, rfl⟩ | ⟨-, d, harrived, -, -, rfl⟩ | ⟨-, error, rfl, rfl⟩⟩ :=
      Engine.finishLoad_eq_some hfinish
    · exact .inr rfl
    · exact .inl ⟨d, n, answer, number, source, rfl, hstage, harrived, d.formId, hended _⟩
    · exact .inr (congrArg Content.data
        (Engine.content_failLoad { s.engine with validator := v } error))
  | dropLoad n hstage => exact .inr rfl
  | _ => cases hmove

/-! ## Runs -/

theorem Run.seeded_subset (hrun : Run start trace s) : start.engine.seeded ⊆ s.engine.seeded :=
  hrun.keeps (P := fun s => start.engine.seeded ⊆ s.engine.seeded)
    (fun _ _ _ _ hs h => List.Subset.trans hs h.seeded_subset) (List.Subset.refl _)

/-- What had its chance in the course of a run has none any more. -/
theorem Carried.seeded (h : Carried start s trace id) : id ∈ s.engine.seeded := by
  obtain ⟨before, p, move, told, q, after, d, -, -, hstep, hafter, hinstalls, hid⟩ := h
  exact hafter.seeded_subset (hstep.mem_seeded_installs hinstalls hid)

/-- No default is put in under an identifier for which another load of the run put one in. -/
theorem Run.sown_once (hrun : Run q after s) (hfirst : Step p move told q)
    (hinstalls : p.Installs move q d) {x y : Sowing} (hx : x ∈ p.engine.sown d)
    (hy : y ∈ s.engine.sown later) : y.id ≠ x.id := by
  obtain ⟨field, hfield, hid, -, hvalue⟩ := field_of_mem_sown hx
  -- The identifier has had its chance from `q` on, and only those without one are sown in `s`.
  have hseeded : x.id ∈ q.engine.seeded :=
    hfirst.mem_seeded_installs hinstalls ⟨field, hfield, hid, by rw [hvalue]; rfl⟩
  exact fun heq => seeded_of_mem_sown hy (heq ▸ hrun.seeded_subset hseeded)

/-- A load whose form is taken up changes the data by what is sown of its defaults, at most one for
each identifier, and none for which an earlier load of the run put one in. No other move of a load
changes the data, and neither does the end of a load whose identifiers with a default all had their
chance in the course of the run. No move of a load touches marks or errors, or tells of a change of
them or of values. -/
theorem Run.defaults_once (hrun : Run (.fresh options timed) trace s) :
    (∀ move events next d, Step s move events next → s.Installs move next d →
      next.engine.state.data = s.engine.state.data.sow (s.engine.sown d) ∧
      ((s.engine.sown d).map Sowing.id).Nodup ∧
      (∀ y ∈ s.engine.sown d, ∃ field ∈ d.fields, field.id = y.id ∧ field.name = y.name ∧
        field.defaultValue = some y.value) ∧
      ∀ before p move' told q after d', trace = before ++ ⟨move', told⟩ :: after →
        Run (.fresh options timed) before p → Step p move' told q → Run q after s →
        p.Installs move' q d' → ∀ x ∈ p.engine.sown d', ∀ y ∈ s.engine.sown d, y.id ≠ x.id) ∧
    (∀ n number source answer events next, Step s (.finishLoad n answer) events next →
      s.loads[n]? = some (.fetching number source) →
      (∀ d id, source.arrived answer = .ok d → d.Defaults id →
        Carried (.fresh options timed) s trace id) →
      next.engine.state.data = s.engine.state.data) ∧
    ∀ move events next, Step s move events next → move.load?.isSome = true →
      s.Spares events next ∧
      ((∀ d, ¬ s.Installs move next d) → next.engine.state.data = s.engine.state.data) := by
  refine ⟨?_, ?_, ?_⟩
  · intro move events next d hstep hinstalls
    refine ⟨hstep.data_installs hinstalls, nodup_sown _ _ _, fun y => field_of_mem_sown, ?_⟩
    intro before p move' told q after d' _ _ hfirst hlater hbrought x hx y hy
    exact hlater.sown_once hfirst hbrought hx hy
  · intro n number source answer events next hstep hstage hcarried
    rcases hstep.data_load rfl with ⟨d, hinstalls⟩ | hsame
    · have harrived : source.arrived answer = .ok d := by
        obtain ⟨_, _, number', source', hmove, hstage', harrived, -⟩ := hinstalls
        cases hmove
        rw [hstage] at hstage'
        cases hstage'
        exact harrived
      have hnothing : s.engine.sown d = [] := by
        refine sown_eq_nil fun field hfield hvalue => ?_
        exact (hcarried d field.id harrived ⟨field, hfield, rfl, hvalue⟩).seeded
      rw [hstep.data_installs hinstalls, hnothing]
      rfl
    · exact hsame
  · intro move events next hstep hmove
    refine ⟨hstep.spares hrun.settled hmove, fun hnone => ?_⟩
    rcases hstep.data_load hmove with ⟨d, hinstalls⟩ | hsame
    · exact absurd hinstalls (hnone d)
    · exact hsame

/-- A form whose field carries a default under some name. -/
def filledForm (name value : String) : FormDefinition :=
  { noteForm with
    fields := [{ id := "text", name := name, kind := .text, defaultValue := some (.str value) }] }

/-- After the default of a field was put in and taken away by a reset, a load of a form with another
default for the field, at another name, puts in nothing. -/
theorem defaults_once_filledForm :
    ∃ trace s told next, Run (.fresh {} true) trace s ∧
      Carried (.fresh {} true) s trace "text" ∧
      Step s (.finishLoad 1 (.error (.unavailable ""))) told next ∧ next.TakenUp 1 ∧
      next.engine.definition = some (filledForm "memo" "y") ∧
      next.engine.state.data = .obj [] ∧ s.Spares told next := by
  obtain ⟨trace, s, told, e, hrun, hcarried, hstage, hdata, hend⟩ : ∃ trace s told e,
      Run (.fresh {} true) trace s ∧ Carried (.fresh {} true) s trace "text" ∧
      s.loads[1]? = some (.fetching 2 (.definition (filledForm "memo" "y"))) ∧
      s.engine.state.data = .obj [] ∧
      s.engine.finishLoad 2 (.ok (filledForm "memo" "y")) = some (.loaded "note", told, e) := by
    -- The first load puts the default in, the reset takes it away, and the second load waits.
    have hstarted := (Run.rest : Run (.fresh {} true) [] _).turn
      (.startLoad (.definition (filledForm "text" "x")) rfl)
    have hloaded := Step.finishLoad (s := { (fresh {} true) with
      engine := (fresh {} true).engine.beginLoad.2.2
      loads := [.fetching 1 (.definition (filledForm "text" "x"))] }) 0
        (.error (.unavailable "")) rfl rfl
    have hlater (q : Session) := ((Run.rest : Run q [] q).turn (step_calling .reset rfl)).turn
      (.startLoad (.definition (filledForm "memo" "y")) rfl)
    refine ⟨_, _, _, _, (hstarted.turn hloaded).append (hlater _), ?_, rfl, rfl, rfl⟩
    refine ⟨_, _, _, _, _, _, filledForm "text" "x", List.append_assoc _ _ _, hstarted, hloaded,
      hlater _, ⟨0, _, 1, _, rfl, rfl, rfl, "note", rfl⟩, ?_⟩
    exact ⟨_, List.mem_singleton.mpr rfl, rfl, rfl⟩
  have hstep := Step.finishLoad 1 (.error (.unavailable "")) hstage hend
  have htaken := List.getElem?_set_self (a := LoadStage.ended (.loaded "note"))
    (List.getElem?_eq_some_iff.mp hstage).1
  obtain ⟨-, hnothing, hspares⟩ := hrun.defaults_once
  have hkept := hnothing 1 2 _ _ _ _ hstep hstage fun d id harrived hid => by
    cases harrived
    obtain ⟨field, hfield, rfl, -⟩ := hid
    rw [List.mem_singleton.mp hfield]
    exact hcarried
  refine ⟨trace, s, _, _, hrun, hcarried, hstep, ⟨_, htaken⟩, ?_, hkept.trans hdata,
    (hspares _ _ _ hstep rfl).1⟩
  obtain ⟨v, done, hdone, -, hleft⟩ :=
    hstep.installs_eq ⟨1, _, 2, _, rfl, hstage, rfl, _, htaken⟩
  have htakes := Engine.definition_install hdone
  rw [← hleft]
  exact htakes

end Session

end LiveForm
