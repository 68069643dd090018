import LiveForm.Proofs.Engine.Blame
import LiveForm.Proofs.Session.LatestLoad
import LiveForm.Proofs.Session.Validation

/-!
# Errors and the forms that they belong to

Errors are found wrong with fields of the form, and have a message. They stay when another form is
taken up, so that an error can stand under a name that no field of the form has. Such an error was
stored for a field of a form that was there before, and no event since has told that errors were
taken away (`Stale`). A change of a value does not remove it, for none of the fields has its name.
-/

namespace LiveForm.Session

variable {options : EngineOptions} {timed : Bool} {start s next : Session} {move : Move}
  {events : List FormEvent} {trace : List Turn} {entry : String × String}

/-- The error was stored for a field of the form that was there when another one was taken up, and
has not been taken away since. -/
def Stale (start s : Session) (trace : List Turn) (entry : String × String) : Prop :=
  ∃ before n answer told after p, trace = before ++ ⟨.finishLoad n answer, told⟩ :: after ∧
    Run start before p ∧ p.engine.Named entry.1 ∧ entry ∈ p.engine.state.errors ∧ s.TakenUp n ∧
    ∀ turn ∈ after, ∀ event ∈ turn.events, event.clearsErrors = false

/-- An error that is left stays so, as long as no event takes it away. -/
theorem Stale.turn (h : Stale start s trace entry) (hstep : Step s move events next)
    (hkeeps : ∀ event ∈ events, event.clearsErrors = false) :
    Stale start next (trace ++ [⟨move, events⟩]) entry := by
  obtain ⟨before, n, answer, told, after, p, rfl, hp, hnamed, hentry, ⟨formId, htaken⟩, hafter⟩ := h
  refine ⟨before, n, answer, told, after ++ [⟨move, events⟩], p,
    by rw [List.append_assoc, List.cons_append], hp, hnamed, hentry,
    ⟨formId, hstep.ended htaken⟩, ?_⟩
  intro turn hturn
  rcases List.mem_append.mp hturn with hturn | hturn
  · exact hafter turn hturn
  · rw [List.mem_singleton.mp hturn]
    exact hkeeps

/-- The end of a load leaves the errors as they are. -/
theorem Step.errors_finishLoad {n : Nat} {answer : Except TransportError FormDefinition}
    (h : Step s (.finishLoad n answer) events next) :
    next.engine.state.errors = s.engine.state.errors := by
  cases h with
  | finishLoad n answer hstage hfinish =>
    obtain ⟨done, v, -, rfl, ⟨-, -, rfl⟩ | ⟨-, d, -, -, hdone, -⟩ | ⟨-, error, -, rfl⟩⟩ :=
      Engine.finishLoad_eq_some hfinish
    · rfl
    · exact congrArg Findings.errors (Engine.findings_install hdone)
    · exact congrArg Findings.errors (Engine.findings_failLoad { s.engine with validator := v } error)

/-- The end of a load blames nothing on the form, unless another form is taken up. Then all errors
stay. -/
theorem Step.blamed_finishLoad {n : Nat} {answer : Except TransportError FormDefinition}
    (h : Step s (.finishLoad n answer) events next) (hsettled : s.engine.Settled) :
    s.engine.Blamed events next.engine ∨
      next.TakenUp n ∧ next.engine.definition ≠ none ∧
        ∀ event ∈ events, event.clearsErrors = false := by
  cases h with
  | finishLoad n answer hstage hfinish =>
    have hchecked (v : Validator) : s.engine.Blames { s.engine with validator := v } :=
      Engine.blames_of_eq rfl rfl rfl
    have hplace := (List.getElem?_eq_some_iff.mp hstage).1
    obtain ⟨done, v, rfl, rfl, ⟨-, -, rfl⟩ | ⟨-, d, -, -, hdone, rfl⟩ | ⟨-, error, -, rfl⟩⟩ :=
      Engine.finishLoad_eq_some hfinish
    · exact .inl ((hchecked v).told hsettled)
    · obtain ⟨told, htold, hkeeps⟩ := Engine.clearsErrors_install hdone
      have hnothing : ({ s.engine with validator := v } : Engine).drain.1 = [] := hsettled
      refine .inr ⟨⟨d.formId, List.getElem?_set_self hplace⟩, ?_, ?_⟩
      · have hdefinition := Engine.definition_install hdone
        show done.definition ≠ none
        rw [hdefinition]
        nofun
      · rw [htold, hnothing, List.nil_append]
        exact hkeeps
    · exact .inl (((hchecked v).trans (Engine.blames_failLoad _ error)).told hsettled)

/-- What a step leaves stored, it kept or found wrong with the form; or it is the end of a load
whose form is taken up. -/
theorem Step.blamed (h : Step s move events next) (hsettled : s.engine.Settled) :
    s.engine.Blamed events next.engine ∨
      ∃ n answer, move = .finishLoad n answer ∧ next.TakenUp n ∧ next.engine.definition ≠ none ∧
        ∀ event ∈ events, event.clearsErrors = false := by
  have hsame {e : Engine} (hd : e.definition = s.engine.definition)
      (herrors : e.state.errors = s.engine.state.errors) : s.engine.Blamed [] e :=
    Engine.blamed_of_kept hd herrors nofun
  cases h with
  | call hobey =>
    obtain ⟨done, hdone, rfl, rfl⟩ := Engine.obey_eq_some_iff.mp hobey
    exact .inl ((Engine.blames_perform hdone).told hsettled)
  | expire message =>
    have hdefinition := congrArg Content.definition (s.engine.content_expire message)
    have herrors := congrArg Findings.errors (s.engine.findings_expire message)
    refine .inl (Engine.blamed_of_kept hdefinition herrors fun event hevent => ?_)
    simp only [Engine.expire] at hevent
    split at hevent
    · rw [List.mem_singleton.mp hevent]
      rfl
    · cases hevent
  | startLoad source hn =>
    obtain ⟨started, heq, hstarted⟩ := s.engine.blames_beginLoad
    rw [heq]
    exact .inl (hstarted.told hsettled)
  | finishLoad n answer hstage hfinish =>
    rcases (Step.finishLoad n answer hstage hfinish).blamed_finishLoad hsettled with
      hblamed | htaken
    · exact .inl hblamed
    · exact .inr ⟨n, answer, rfl, htaken⟩
  | enter hi hflag =>
    rw [(Engine.acquire_eq_some.mp hflag).2]
    exact .inl (hsame rfl rfl)
  | prepare i hstage hbegin => exact .inl (s.engine.blames_prepare.told hsettled)
  | refuse i hstage hbegin => exact .inl (s.engine.blames_prepare.told hsettled)
  | @answer i formId payload answer hstage =>
    cases answer with
    | ok response => exact .inl ((s.engine.blames_accept payload response).told hsettled)
    | error error => exact .inl ((s.engine.blames_reject error.message).told hsettled)
  | _ => exact .inl (hsame rfl rfl)

/-- Without a form there are no errors. -/
theorem Run.errors_of_none (hrun : Run (.fresh options timed) trace s)
    (hnone : s.engine.definition = none) : s.engine.state.errors = [] := by
  induction hrun with
  | rest => rfl
  | @turn trace s next move events hrun hstep ih =>
    rcases hstep.blamed hrun.settled with hblamed | ⟨_, _, -, -, hsome, -⟩
    · have hbefore : s.engine.definition = none := hblamed.definition.symm.trans hnone
      refine List.eq_nil_iff_forall_not_mem.mpr fun entry hentry => ?_
      rcases hblamed.errors entry hentry with ⟨⟨d, hd, -⟩, -⟩ | ⟨hkept, -⟩
      · rw [hbefore] at hd
        cases hd
      · rw [ih hbefore] at hkept
        cases hkept
    · exact absurd hnone hsome

/-- Every error has a message. It is about a field of the form, or is left from an earlier form. -/
theorem Run.named_or_stale (hrun : Run (.fresh options timed) trace s)
    (hentry : entry ∈ s.engine.state.errors) :
    entry.2 ≠ "" ∧
      (s.engine.Named entry.1 ∨ Stale (.fresh options timed) s trace entry) := by
  -- An error that is kept has the origin that it had before the last turn, unless that turn took up
  -- another form: then an error about the old one is stale from now on.
  induction hrun with
  | rest => cases hentry
  | @turn trace s next move events hrun hstep ih =>
    rcases hstep.blamed hrun.settled with hblamed | ⟨n, answer, rfl, htaken, -, hkeeps⟩
    · have hstays (hnamed : s.engine.Named entry.1) : next.engine.Named entry.1 := by
        obtain ⟨d, hd, hfield⟩ := hnamed
        exact ⟨d, hblamed.definition.trans hd, hfield⟩
      rcases hblamed.errors entry hentry with ⟨hnamed, hne⟩ | ⟨hbefore, hkeeps⟩
      · exact ⟨hne, .inl (hstays hnamed)⟩
      · obtain ⟨hne, hnamed | hstale⟩ := ih hbefore
        · exact ⟨hne, .inl (hstays hnamed)⟩
        · exact ⟨hne, .inr (hstale.turn hstep hkeeps)⟩
    · have hbefore : entry ∈ s.engine.state.errors := hstep.errors_finishLoad ▸ hentry
      obtain ⟨hne, hnamed | hstale⟩ := ih hbefore
      · refine ⟨hne, .inr ?_⟩
        exact ⟨trace, n, answer, events, [], s, rfl, hrun, hnamed, hbefore, htaken, nofun⟩
      · exact ⟨hne, .inr (hstale.turn hstep hkeeps)⟩

/-- Without a form there are no errors. Every error has a message, and is about a field of the form
or left from an earlier one: it was about a field of the form that was there when another one was
taken up, and has not been taken away since. No end of a load touches the errors. -/
theorem Run.errors_origin (hrun : Run (.fresh options timed) trace s) :
    (s.engine.definition = none → s.engine.state.errors = []) ∧
    (∀ entry ∈ s.engine.state.errors, entry.2 ≠ "" ∧
      (s.engine.Named entry.1 ∨ Stale (.fresh options timed) s trace entry)) ∧
    (∀ n answer events next, Step s (.finishLoad n answer) events next →
      next.engine.state.errors = s.engine.state.errors) :=
  ⟨hrun.errors_of_none, fun _ hentry => hrun.named_or_stale hentry,
    fun _ _ _ _ hstep => hstep.errors_finishLoad⟩

/-- A form without fields. -/
def blankForm : FormDefinition := { noteForm with formId := "blank", fields := [] }

/-- The missing text of the strict form is still complained of when the blank form is there. -/
theorem exists_stale : ∃ trace s, Run (.fresh {} true) trace s ∧
    s.engine.definition = some blankForm ∧
    s.engine.state.errors = [("text", "This field is required")] := by
  obtain ⟨origin, hrun⟩ := run_loadedWith {} strictForm
  have hfound := hrun.turn (step_calling .validate rfl)
  have hstarted := hfound.turn (.startLoad (.definition blankForm) rfl)
  have htaken := hstarted.turn (step_arriving 1 (.error (.unavailable "")) rfl rfl)
  exact ⟨_, _, htaken, rfl, by decide⟩

theorem not_named_blankForm {s : Session} (hd : s.engine.definition = some blankForm)
    (name : String) : ¬ s.engine.Named name := by
  rintro ⟨d, hd', field, hfield, -⟩
  rw [hd] at hd'
  cases hd'
  cases hfield

/-- The error under the name `text` is left from the strict form. -/
theorem errors_origin_blankForm :
    ∃ trace s, Run (.fresh {} true) trace s ∧ s.engine.definition = some blankForm ∧
      ("text", "This field is required") ∈ s.engine.state.errors ∧
      Stale (.fresh {} true) s trace ("text", "This field is required") := by
  obtain ⟨trace, s, hrun, hd, herrors⟩ := exists_stale
  have hentry : ("text", "This field is required") ∈ s.engine.state.errors := by
    rw [herrors]
    exact List.mem_singleton.mpr rfl
  have horigin := (hrun.errors_origin.2.1 _ hentry).2
  exact ⟨trace, s, hrun, hd, hentry, horigin.resolve_left (not_named_blankForm hd _)⟩

/-- An error can stand under a name that no field of the form has. -/
theorem errors_outlive_form :
    ∃ trace s, Run (.fresh {} true) trace s ∧
      ∃ entry ∈ s.engine.state.errors, ¬ s.engine.Named entry.1 := by
  obtain ⟨trace, s, hrun, hd, herrors⟩ := exists_stale
  refine ⟨trace, s, hrun, ("text", "This field is required"), ?_, not_named_blankForm hd _⟩
  rw [herrors]
  exact List.mem_singleton.mpr rfl

end LiveForm.Session
