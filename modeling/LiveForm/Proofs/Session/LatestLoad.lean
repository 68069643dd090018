import LiveForm.Proofs.Session.Status

/-!
# The latest load wins

Loads can end in any order. What decides is the order in which they were started: a load that ends
after the start of a later one is superseded, and leaves everything that can be seen as it was.
Those that are not superseded end in the order of their starts, for each of them was the last one
when it ended, and places never go down. Nothing else touches the definition, so that it is always
that of the last load that was taken up.
-/

namespace LiveForm.Session

/-- The form of the load was taken up. -/
def TakenUp (s : Session) (n : Nat) : Prop :=
  ∃ formId, s.loads[n]? = some (.ended (.loaded formId))

/-- The move is the end of a load, which was not superseded. -/
def Settles (s : Session) (n : Nat) (move : Move) : Prop :=
  (∃ answer, move = .finishLoad n answer) ∧
    ∃ outcome, s.loads[n]? = some (.ended outcome) ∧ s.loads[n]? ≠ some (.ended .superseded)

/-- A load was started after another one. -/
def Overtaken (trace : List Turn) (n : Nat) : Prop :=
  ∃ later source told, n < later ∧ ⟨.startLoad later source, told⟩ ∈ trace

/-- None of the loads that ended in the course of turns had its form taken up. -/
def NoneTakenUp (s : Session) (turns : List Turn) : Prop :=
  ∀ turn ∈ turns, ∀ n answer, turn.move = .finishLoad n answer → ¬ s.TakenUp n

/-- The definition arrived for the last load of a run whose form was taken up. -/
def LastTakenUp (s : Session) (trace : List Turn) (d : FormDefinition) : Prop :=
  ∃ before n source started answer told after,
    trace = before ++ ⟨.finishLoad n answer, told⟩ :: after ∧
    ⟨.startLoad n source, started⟩ ∈ before ∧ source.arrived answer = .ok d ∧
    s.loads[n]? = some (.ended (.loaded d.formId)) ∧ s.NoneTakenUp after

variable {options : EngineOptions} {timed : Bool} {start s next : Session} {move : Move}
  {events : List FormEvent} {trace : List Turn} {n : Nat}

/-! ## Starts -/

/-- A load that waits was started with what it waits for. -/
theorem Run.startLoad_mem (hrun : Run start trace s) (hstart : start.loads = []) {number : Nat}
    {source : FormSource} (hs : s.loads[n]? = some (.fetching number source)) :
    ∃ told, ⟨.startLoad n source, told⟩ ∈ trace := by
  induction hrun with
  | rest =>
    rw [hstart] at hs
    cases hs
  | @turn trace s next move events hrun hstep ih =>
    rcases hstep.load_cases n with heq | ⟨source', rfl, -, heq⟩ | ⟨_, _, stage, -, heq, hclosed⟩
    · obtain ⟨told, hmem⟩ := ih (heq ▸ hs)
      exact ⟨told, List.mem_append_left _ hmem⟩
    · rw [heq] at hs
      cases hs
      exact ⟨events, List.mem_append_right _ (List.mem_singleton.mpr rfl)⟩
    · rw [heq] at hs
      cases hs
      cases hclosed

theorem overtaken_concat :
    Overtaken (trace ++ [⟨move, events⟩]) n ↔
      Overtaken trace n ∨ ∃ later source, n < later ∧ move = .startLoad later source := by
  simp only [Overtaken, List.mem_append, List.mem_singleton, Turn.mk.injEq]
  constructor
  · rintro ⟨later, source, told, hlater, hmem | ⟨rfl, -⟩⟩
    · exact .inl ⟨later, source, told, hlater, hmem⟩
    · exact .inr ⟨later, source, hlater, rfl⟩
  · rintro (⟨later, source, told, hlater, hmem⟩ | ⟨later, source, hlater, rfl⟩)
    · exact ⟨later, source, told, hlater, .inl hmem⟩
    · exact ⟨later, source, events, hlater, .inr ⟨rfl, rfl⟩⟩

/-- A load was started after another one exactly if the other one is not at the last place. -/
theorem Run.overtaken_iff (hrun : Run start trace s) (hstart : start.loads = []) :
    Overtaken trace n ↔ n + 1 < s.loads.length := by
  induction hrun with
  | rest =>
    rw [hstart]
    constructor
    · rintro ⟨_, _, _, -, hmem⟩
      cases hmem
    · nofun
  | @turn trace s next move events hrun hstep ih =>
    have hlength := hstep.loads_length
    rw [overtaken_concat, ih, hlength]
    cases hstep with
    | @startLoad last source hlast =>
      rw [show (Move.startLoad last source).startsLoad = true from rfl, if_pos rfl]
      constructor
      · rintro (hbefore | ⟨later, _, hlater, heq⟩)
        · omega
        · cases heq
          omega
      · intro hn
        exact .inr ⟨last, source, by omega, rfl⟩
    | _ =>
      refine ⟨fun h => h.resolve_right ?_, .inl⟩
      rintro ⟨_, _, _, heq⟩
      cases heq

/-- The load that waits has the number that the engine counts to, unless another one was started. -/
theorem Run.loads_eq (hrun : Run (.fresh options timed) trace s) {number : Nat}
    {source : FormSource} (hstage : s.loads[n]? = some (.fetching number source))
    (hlast : ¬ Overtaken trace n) : s.engine.loads = number := by
  have hplace := (List.getElem?_eq_some_iff.mp hstage).1
  have hnumber := hrun.numbered.number n number source hstage
  have hcount := hrun.numbered.count
  rw [hrun.overtaken_iff rfl] at hlast
  omega

theorem Run.loads_ne (hrun : Run (.fresh options timed) trace s) {number : Nat}
    {source : FormSource} (hstage : s.loads[n]? = some (.fetching number source))
    (hover : Overtaken trace n) : s.engine.loads ≠ number := by
  have hnumber := hrun.numbered.number n number source hstage
  have hcount := hrun.numbered.count
  rw [hrun.overtaken_iff rfl] at hover
  omega

/-! ## Ends -/

/-- The end of a load that was overtaken tells of nothing, and leaves the engine as it is but for
the patterns that were compiled for the check. -/
theorem Step.finishLoad_overtaken {answer : Except TransportError FormDefinition}
    (h : Step s (.finishLoad n answer) events next) (hsettled : s.engine.Settled)
    (hs : s.Numbered) (hlate : n + 1 < s.loads.length) :
    events = [] ∧ ∃ patterns, next.engine =
      { s.engine with validator := { s.engine.validator with patterns := patterns } } := by
  cases h with
  | @finishLoad _ number source _ _ _ _ hstage hfinish =>
    have hnumber := hs.number n number source hstage
    have hcount := hs.count
    have hother : s.engine.loads ≠ number := by omega
    obtain ⟨patterns, heq⟩ := Engine.finishLoad_late hother hsettled (source.arrived answer)
    cases heq.symm.trans hfinish
    exact ⟨rfl, patterns, rfl⟩

/-- A load is superseded exactly if it was not the last one when it ended. -/
theorem Step.superseded_iff {answer : Except TransportError FormDefinition}
    (h : Step s (.finishLoad n answer) events next) (hs : s.Numbered) :
    next.loads[n]? = some (.ended .superseded) ↔ n + 1 < s.loads.length := by
  obtain ⟨number, source, _, hstage, -, hiff⟩ := h.finishLoad_outcome
  have hplace : n < s.loads.length := (List.getElem?_eq_some_iff.mp hstage).1
  have hnumber := hs.number n number source hstage
  have hcount := hs.count
  rw [hiff]
  omega

/-- What a load has come to, it had come to before or comes to by its end. -/
theorem Step.settles_before (h : Step s move events next) {turn : Turn} {m : Nat}
    (hbefore : ∃ outcome, s.loads[m]? = some (.ended outcome)) :
    next.Settles m turn.move ↔ s.Settles m turn.move := by
  obtain ⟨outcome, hs⟩ := hbefore
  simp only [Settles, hs, h.ended hs]

/-- The loads that were not superseded ended in the order of their starts. -/
theorem Run.settles_increasing (hrun : Run (.fresh options timed) trace s) :
    trace.Pairwise fun earlier later => ∀ m n,
      s.Settles m earlier.move → s.Settles n later.move → m < n := by
  induction hrun with
  | rest => exact List.Pairwise.nil
  | @turn trace s next move events hrun hstep ih =>
    have hkept {turn : Turn} (hturn : turn ∈ trace) (m : Nat) :
        next.Settles m turn.move ↔ s.Settles m turn.move := by
      constructor
      · rintro ⟨⟨answer, hmove⟩, hend⟩
        have hmem : ⟨.finishLoad m answer, turn.events⟩ ∈ trace := hmove ▸ hturn
        exact (hstep.settles_before (hrun.ended hmem)).mp ⟨⟨answer, hmove⟩, hend⟩
      · rintro ⟨hmove, outcome, hended, hne⟩
        exact (hstep.settles_before ⟨outcome, hended⟩).mpr ⟨hmove, outcome, hended, hne⟩
    refine List.pairwise_append.mpr ⟨?_, List.pairwise_singleton _ _, ?_⟩
    · refine List.Pairwise.imp_of_mem ?_ ih
      intro earlier later hearlier hlater horder m n hm hn
      exact horder m n ((hkept hearlier m).mp hm) ((hkept hlater n).mp hn)
    · -- The load that ends now is the last one, and all that ended before have other places.
      intro earlier hearlier later hlater m n hm hn
      obtain ⟨-, outcome, hended, -⟩ := (hkept hearlier m).mp hm
      rw [List.mem_singleton.mp hlater] at hn
      obtain ⟨⟨answer, rfl⟩, -, -, hne⟩ := hn
      obtain ⟨number, source, -, hstage, -⟩ := hstep.finishLoad_outcome
      have hlast := mt (hstep.superseded_iff hrun.numbered).mpr hne
      have hplace : m < s.loads.length := (List.getElem?_eq_some_iff.mp hended).1
      have hother : m ≠ n := by
        rintro rfl
        rw [hended] at hstage
        cases hstage
      omega

/-! ## The definition -/

/-- A step leaves the definition as it is, or is the end of a load whose form is taken up. -/
theorem Step.definition_cases (h : Step s move events next) :
    (next.engine.definition = s.engine.definition ∧
      ∀ n answer, move = .finishLoad n answer → ¬ next.TakenUp n) ∨
    ∃ n answer number source d, move = .finishLoad n answer ∧
      s.loads[n]? = some (.fetching number source) ∧ source.arrived answer = .ok d ∧
      next.loads[n]? = some (.ended (.loaded d.formId)) ∧ next.engine.definition = some d := by
  by_cases hmove : ∃ n answer, move = .finishLoad n answer
  · obtain ⟨n, answer, rfl⟩ := hmove
    have hsame {stage : LoadStage} (hstage : next.loads[n]? = some stage)
        (hne : ∀ formId, stage ≠ .ended (.loaded formId)) :
        ∀ n' answer', Move.finishLoad n answer = .finishLoad n' answer' → ¬ next.TakenUp n' := by
      rintro n' answer' hmoves ⟨formId, hn⟩
      cases hmoves
      rw [hstage] at hn
      exact hne formId (Option.some.inj hn)
    cases h with
    | @finishLoad _ number source _ _ _ _ hstage hfinish =>
      have hended (stage : LoadStage) : (s.loads.set n stage)[n]? = some stage :=
        List.getElem?_set_self (List.getElem?_eq_some_iff.mp hstage).1
      obtain ⟨done, v, -, rfl,
        ⟨-, rfl, rfl⟩ | ⟨-, d, harrived, -, hdone, rfl⟩ | ⟨-, error, rfl, rfl⟩⟩ :=
        Engine.finishLoad_eq_some hfinish
      · exact .inl ⟨rfl, hsame (hended _) nofun⟩
      · have hdefinition := Engine.definition_install hdone
        exact .inr ⟨n, answer, number, source, d, rfl, hstage, harrived, hended _, hdefinition⟩
      · refine .inl ⟨?_, hsame (hended _) nofun⟩
        exact congrArg Content.definition
          (({ s.engine with validator := v }).content_failLoad error)
  · refine .inl ⟨?_, fun n answer heq => absurd ⟨n, answer, heq⟩ hmove⟩
    show next.engine.content.definition = s.engine.content.definition
    rcases h.content_cases with
      heq | heq | heq | ⟨c, answer, done, -, hdone, heq⟩ | ⟨kind, widget, -, heq⟩ |
        ⟨d, v, done, -, hends, -⟩
    · rw [heq]
    · rw [heq]
      rfl
    · rw [heq]
      rfl
    · rw [heq, Engine.content_perform hdone]
    · rw [heq]
    · exact absurd hends hmove

/-- Whether a load that has ended had its form taken up does not depend on what happens later. -/
theorem Step.takenUp_iff (hrun : Run start trace s) (h : Step s move events next) {turn : Turn}
    (hturn : turn ∈ trace) {answer : Except TransportError FormDefinition}
    (hmove : turn.move = .finishLoad n answer) : next.TakenUp n ↔ s.TakenUp n := by
  have hmem : ⟨.finishLoad n answer, turn.events⟩ ∈ trace := hmove ▸ hturn
  obtain ⟨outcome, hs⟩ := hrun.ended hmem
  simp only [TakenUp, hs, h.ended hs]

theorem NoneTakenUp.concat {turns : List Turn} (hs : s.NoneTakenUp turns) (hrun : Run start trace s)
    (h : Step s move events next) (hturns : turns ⊆ trace)
    (hlast : ∀ n answer, move = .finishLoad n answer → ¬ next.TakenUp n) :
    next.NoneTakenUp (turns ++ [⟨move, events⟩]) := by
  intro turn hturn n answer hmove
  rcases List.mem_append.mp hturn with hturn | hturn
  · rw [h.takenUp_iff hrun (hturns hturn) hmove]
    exact hs turn hturn n answer hmove
  · rw [List.mem_singleton.mp hturn] at hmove
    exact hlast n answer hmove

/-- The definition is always that of the last load whose form was taken up. -/
theorem Run.definition_eq (hrun : Run (.fresh options timed) trace s) :
    (s.engine.definition = none ∧ s.NoneTakenUp trace) ∨
    ∃ d, s.engine.definition = some d ∧ s.LastTakenUp trace d := by
  induction hrun with
  | rest => exact .inl ⟨rfl, nofun⟩
  | @turn trace s next move events hrun hstep ih =>
    rcases hstep.definition_cases with
      ⟨hsame, hlast⟩ | ⟨n, answer, number, source, d, rfl, hstage, harrived, hended, hd⟩
    · rw [hsame]
      rcases ih with ⟨hnone, hs⟩ | ⟨d, hd, hs⟩
      · exact .inl ⟨hnone, hs.concat hrun hstep (List.Subset.refl _) hlast⟩
      · obtain ⟨before, n, source, started, answer, told, after, rfl, hstarted, harrived, hended,
          hafter⟩ := hs
        refine .inr ⟨d, hd, before, n, source, started, answer, told, after ++ [⟨move, events⟩],
          by rw [List.append_assoc, List.cons_append], hstarted, harrived, hstep.ended hended, ?_⟩
        refine hafter.concat hrun hstep ?_ hlast
        intro turn hturn
        exact List.mem_append_right _ (List.mem_cons_of_mem _ hturn)
    · obtain ⟨started, hstarted⟩ := hrun.startLoad_mem rfl hstage
      exact .inr ⟨d, hd, trace, n, source, started, answer, events, [], rfl, hstarted, harrived,
        hended, nofun⟩

/-! ## The latest load -/

/-- A load that ends is superseded exactly if another one was started after it; then nothing is
told, and the engine is as it was but for the patterns that were compiled for the check. The loads
that were not superseded ended in the order of their starts. The definition is that of the last load
whose form was taken up. -/
theorem Run.latest_load (hrun : Run (.fresh options timed) trace s) :
    (∀ n answer events next, Step s (.finishLoad n answer) events next →
      (next.loads[n]? = some (.ended .superseded) ↔ Overtaken trace n) ∧
      (Overtaken trace n → events = [] ∧ ∃ patterns, next.engine =
        { s.engine with validator := { s.engine.validator with patterns := patterns } })) ∧
    (trace.Pairwise fun earlier later => ∀ m n,
      s.Settles m earlier.move → s.Settles n later.move → m < n) ∧
    ((s.engine.definition = none ∧ s.NoneTakenUp trace) ∨
      ∃ d, s.engine.definition = some d ∧ s.LastTakenUp trace d) := by
  refine ⟨?_, hrun.settles_increasing, hrun.definition_eq⟩
  intro n answer events next hstep
  rw [hrun.overtaken_iff rfl]
  exact ⟨hstep.superseded_iff hrun.numbered,
    hstep.finishLoad_overtaken hrun.settled hrun.numbered⟩

/-- A form to look at beside the note form. -/
def memoForm : FormDefinition := { noteForm with formId := "memo" }

/-- A load that is started while another one waits wins over it, also if it ends first. -/
theorem latest_load_noteForm :
    ∃ trace s events next, Run (.fresh {} true) trace s ∧
      s.engine.definition = some memoForm ∧
      Step s (.finishLoad 0 (.ok noteForm)) events next ∧ Overtaken trace 0 ∧
      next.loads[0]? = some (.ended .superseded) ∧ events = [] ∧
      next.engine.definition = some memoForm := by
  obtain ⟨trace, s, hrun, hstage, hd, hlater⟩ : ∃ trace s, Run (.fresh {} true) trace s ∧
      s.loads[0]? = some (.fetching 1 (.id "note")) ∧ s.engine.definition = some memoForm ∧
      Overtaken trace 0 := by
    have hboth := ((Run.rest : Run (.fresh {} true) [] _).turn (.startLoad (.id "note") rfl)).turn
      (.startLoad (.definition memoForm) rfl)
    have hended := hboth.turn (step_arriving 1 (.error (.unavailable "")) rfl rfl)
    exact ⟨_, _, hended, rfl, rfl, (hended.overtaken_iff rfl).mpr (by decide)⟩
  -- The first load has the number one, and two loads were started.
  have hlate : s.engine.loads ≠ 1 := by
    have hcount := hrun.numbered.count
    have hlength := (hrun.overtaken_iff (n := 0) rfl).mp hlater
    omega
  obtain ⟨patterns, hfinish⟩ := Engine.finishLoad_late hlate hrun.settled (.ok noteForm)
  have hstep := Step.finishLoad 0 (.ok noteForm) hstage hfinish
  obtain ⟨hiff, hnothing⟩ := hrun.latest_load.1 0 (.ok noteForm) _ _ hstep
  exact ⟨trace, s, _, _, hrun, hd, hstep, hlater, hiff.mpr hlater, (hnothing hlater).1, hd⟩

end LiveForm.Session
