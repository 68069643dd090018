import LiveForm.Proofs.Session.Flag
import LiveForm.Proofs.Session.Payload

/-!
# Which statuses follow each other

A form loads, becomes ready or fails to load; a ready form is submitted and is then accepted or
refused. `FormStatus.precedes` is this diagram. The completions of loads and of submissions set the
status without a look at the one that is there, and so a change follows the diagram exactly if
nothing of the other kind came in between (`Undisturbed`): an answer finds `submitting` exactly if
no load was started and none took effect since the preparation, and a load that takes effect finds
`loading` exactly if no answer came since its start.
-/

namespace LiveForm

/-- Whether one status may come right after another. -/
def FormStatus.precedes (start stop : FormStatus) : Bool :=
  match stop with
  | .idle => false
  | .loading => true
  | .ready | .loadError => start = .loading
  | .submitting => start.isReady
  | .submitted | .submitError => start = .submitting

namespace Session

/-- The move brings the answer to a submission. -/
def Move.answers : Move → Bool
  | answer _ _ => true
  | _ => false

/-- The move starts a load, or finishes one that was not superseded. -/
def LoadChanges (s : Session) : Move → Prop
  | .startLoad _ _ => True
  | .finishLoad n _ => s.loads[n]? ≠ some (.ended .superseded)
  | _ => False

/-- What came in between the two ends of a load or a submission lets its completion find the status
that its start had set. -/
def Undisturbed (s : Session) (trace : List Turn) : Move → Prop
  | .answer i _ =>
    ∃ before told after, trace = before ++ ⟨.prepare i, told⟩ :: after ∧
      ∀ turn ∈ after, ¬ s.LoadChanges turn.move
  | .finishLoad n _ =>
    ∃ before source told after, trace = before ++ ⟨.startLoad n source, told⟩ :: after ∧
      ∀ turn ∈ after, turn.move.answers = false
  | _ => True

variable {options : EngineOptions} {timed : Bool} {start s q next : Session} {move : Move}
  {events : List FormEvent} {trace after : List Turn} {i j n : Nat} {formId : String}
  {payload : Payload}

/-! ## Single turns -/

/-- A run can be cut at each of its turns. -/
theorem Run.cut (hrun : Run start trace s) {before after : List Turn} {turn : Turn}
    (htrace : trace = before ++ turn :: after) :
    ∃ p q, Run start before p ∧ Step p turn.move turn.events q ∧ Run q after s := by
  induction hrun generalizing after with
  | rest => simp at htrace
  | @turn trace s next move events hrun hstep ih =>
    rcases List.eq_nil_or_concat after with rfl | ⟨rest, last, rfl⟩
    · obtain ⟨rfl, hlast⟩ := List.append_inj' htrace rfl
      cases hlast
      exact ⟨s, next, hrun, hstep, .rest⟩
    · rw [List.concat_eq_append, ← List.cons_append, ← List.append_assoc] at htrace
      obtain ⟨hbefore, hlast⟩ := List.append_inj' htrace rfl
      cases hlast
      obtain ⟨p, q, hp, hpq, hq⟩ := ih hbefore
      rw [List.concat_eq_append]
      exact ⟨p, q, hp, hpq, hq.turn hstep⟩

/-- A step tells of a change of the status exactly if there is one. -/
theorem Step.statusChanges_eq (h : Step s move events next) (hsettled : s.engine.Settled) :
    statusChanges events =
      if s.engine.status = next.engine.status then []
      else [(s.engine.status, next.engine.status)] := by
  obtain ⟨p, hadvance, hchanges, hprogress⟩ := h.advance hsettled
  have hstatus : next.engine.status = p.status := congrArg Progress.status hprogress
  have hnone : s.engine.progress.changes = [] := hsettled.changes
  have hgo (q : Progress) (status : FormStatus) (hq : q.changes = []) :
      (q.goTo status).changes =
        if q.status = (q.goTo status).status then [] else [(q.status, (q.goTo status).status)] := by
    rw [Progress.changes_goTo, Progress.status_goTo, hq, List.nil_append]
  rw [hchanges, hstatus]
  -- A move that goes to a status notes the change, and a settled engine had noted none before.
  cases hadvance with
  | startLoad => exact hgo { s.engine.progress with loads := s.engine.loads + 1 } .loading hnone
  | load => exact hgo _ _ hnone
  | failLoad => exact hgo _ _ hnone
  | prepare => exact hgo _ _ hnone
  | accept => exact hgo _ _ hnone
  | reject => exact hgo _ _ hnone
  | _ => exact hnone.trans (if_pos rfl).symm

/-- Which moves tell of a change of the status, and of which one. -/
theorem Step.statusChange_cases (h : Step s move events next) (hsettled : s.engine.Settled)
    {a b : FormStatus} (hmem : .statusChange a b ∈ events) :
    a = s.engine.status ∧
    ((∃ n source, move = .startLoad n source ∧ b = .loading) ∨
      (∃ n answer number source, move = .finishLoad n answer ∧
        s.loads[n]? = some (.fetching number source) ∧ s.engine.loads = number ∧
        (b = .ready ∨ b = .loadError)) ∨
      (∃ i, move = .prepare i ∧ s.engine.status.isReady = true ∧ b = .submitting) ∨
      (∃ i answer, move = .answer i answer ∧ (b = .submitted ∨ b = .submitError))) := by
  have hchange := mem_statusChanges.mpr hmem
  rw [h.statusChanges_eq hsettled] at hchange
  split at hchange
  · cases hchange
  · rename_i hne
    cases List.mem_singleton.mp hchange
    refine ⟨rfl, ?_⟩
    obtain ⟨p, hadvance, hstatus⟩ := h.advance_status hsettled
    rw [hstatus] at hne ⊢
    cases hadvance with
    | startLoad => exact .inl ⟨_, _, rfl, Progress.status_goTo _ _⟩
    | load hstage hcurrent =>
      exact .inr (.inl ⟨_, _, _, _, rfl, hstage, hcurrent, .inl (Progress.status_goTo _ _)⟩)
    | failLoad hstage hcurrent =>
      exact .inr (.inl ⟨_, _, _, _, rfl, hstage, hcurrent, .inr (Progress.status_goTo _ _)⟩)
    | prepare hbegin hready =>
      exact .inr (.inr (.inl ⟨_, rfl, hready, Progress.status_goTo _ _⟩))
    | accept response =>
      exact .inr (.inr (.inr ⟨_, _, rfl, .inl (Progress.status_goTo _ _)⟩))
    | reject error =>
      exact .inr (.inr (.inr ⟨_, _, rfl, .inr (Progress.status_goTo _ _)⟩))
    | _ => exact absurd rfl hne

/-- An answer goes to `submitted` or to `submitError`, and tells if that is another status. -/
theorem Step.statusChange_answer {answer : Except TransportError SubmitResponse}
    (h : Step s (.answer i answer) events next) (hsettled : s.engine.Settled)
    (hne : s.engine.status ≠ answer.toOption.elim .submitError fun _ => .submitted) :
    .statusChange s.engine.status (answer.toOption.elim .submitError fun _ => .submitted) ∈
      events := by
  obtain ⟨p, hadvance, hstatus⟩ := h.advance_status hsettled
  have hnext : p.status = answer.toOption.elim .submitError fun _ => .submitted := by
    cases hadvance with
    | stay hquiet => cases hquiet
    | accept => exact Progress.status_goTo _ _
    | reject => exact Progress.status_goTo _ _
  refine mem_statusChanges.mp ?_
  rw [h.statusChanges_eq hsettled, hstatus, hnext, if_neg hne]
  exact List.mem_singleton.mpr rfl

/-! ## Submissions -/

/-- What a load has come to stays. -/
theorem Step.ended (h : Step s move events next) {outcome : LoadOutcome}
    (hs : s.loads[n]? = some (.ended outcome)) : next.loads[n]? = some (.ended outcome) := by
  rcases h.load_cases n with heq | ⟨_, -, hn, -⟩ | ⟨_, _, _, hfetching, -, -⟩
  · exact heq.trans hs
  · rw [hn, List.getElem?_eq_none (Nat.le_refl _)] at hs
    cases hs
  · rw [hs] at hfetching
    cases hfetching

/-- A load that arrives ends, and it is superseded exactly if its number is not the current one. -/
theorem Step.finishLoad_outcome {answer : Except TransportError FormDefinition}
    (h : Step s (.finishLoad n answer) events next) :
    ∃ number source outcome, s.loads[n]? = some (.fetching number source) ∧
      next.loads[n]? = some (.ended outcome) ∧
      (next.loads[n]? = some (.ended .superseded) ↔ s.engine.loads ≠ number) := by
  cases h with
  | @finishLoad _ number source _ outcome _ _ hstage hfinish =>
    have hnext := List.getElem?_set_self (a := LoadStage.ended outcome)
      (List.getElem?_eq_some_iff.mp hstage).1
    refine ⟨number, source, _, hstage, hnext, ?_⟩
    show (s.loads.set n _)[n]? = _ ↔ _
    rw [hnext]
    obtain ⟨-, -, -, -,
      ⟨hlate, rfl, -⟩ | ⟨hcurrent, d, -, -, -, rfl⟩ | ⟨hcurrent, error, rfl, -⟩⟩ :=
      Engine.finishLoad_eq_some hfinish
    · exact ⟨fun _ => hlate, fun _ => rfl⟩
    · exact ⟨nofun, fun hlate => absurd hcurrent hlate⟩
    · exact ⟨nofun, fun hlate => absurd hcurrent hlate⟩

/-- A load that arrived in the course of a run has ended. -/
theorem Run.ended (hrun : Run start trace s) {answer : Except TransportError FormDefinition}
    {told : List FormEvent} (hmem : ⟨.finishLoad n answer, told⟩ ∈ trace) :
    ∃ outcome, s.loads[n]? = some (.ended outcome) := by
  induction hrun with
  | rest => cases hmem
  | turn hrun hstep ih =>
    rcases List.mem_append.mp hmem with hmem | hmem
    · obtain ⟨outcome, hs⟩ := ih hmem
      exact ⟨outcome, hstep.ended hs⟩
    · cases List.mem_singleton.mp hmem
      obtain ⟨_, _, outcome, -, hnext, -⟩ := hstep.finishLoad_outcome
      exact ⟨outcome, hnext⟩

/-- Whether an earlier move changed what is loaded does not depend on what happens later. -/
theorem Step.loadChanges_iff (hrun : Run start trace s) (h : Step s move events next) {turn : Turn}
    (hturn : turn ∈ trace) : next.LoadChanges turn.move ↔ s.LoadChanges turn.move := by
  obtain ⟨earlier, told⟩ := turn
  cases earlier with
  | finishLoad n answer =>
    obtain ⟨outcome, hs⟩ := hrun.ended hturn
    simp only [LoadChanges, hs, h.ended hs]
  | _ => exact Iff.rfl

/-- The one submission that has the flag is the one that a step is about. -/
theorem Flagged.eq_of_underway (hs : s.Flagged) (hunder : s.Underway i formId payload)
    {stage : SubmitStage} (hstage : s.submits[j]? = some stage) (hholds : stage.holds = true) :
    j = i := by
  refine hs.single j i ⟨stage, hstage, hholds⟩ ?_
  rcases hunder with hunder | hunder
  · exact ⟨_, hunder, rfl⟩
  · exact ⟨_, hunder, rfl⟩

/-- While a submission is under way no submission is prepared. -/
theorem Step.not_prepare (h : Step s (.prepare j) events next) (hs : s.Flagged) :
    ¬ s.Underway i formId payload := by
  intro hunder
  obtain ⟨stage, -, hbecomes⟩ := h.becomes (i := j) rfl
  generalize hbefore : s.submits[j]? = before at hbecomes
  -- Who is prepared has just entered, and nobody else has the flag.
  have hentered : before = some .entered := by cases hbecomes <;> rfl
  have hj := hs.eq_of_underway hunder (hbefore.trans hentered) rfl
  rw [hj, hentered] at hbefore
  rcases hunder with hunder | hunder <;> rw [hbefore] at hunder <;> cases hunder

/-- The answer that comes while a submission is under way is its own, and ends it. -/
theorem Step.not_underway_answer {answer : Except TransportError SubmitResponse}
    (h : Step s (.answer j answer) events next) (hs : s.Flagged)
    (hunder : s.Underway i formId payload) : ¬ next.Underway i formId payload := by
  intro hnext
  obtain ⟨stage, hstage, hbecomes⟩ := h.becomes (i := j) rfl
  generalize hbefore : s.submits[j]? = before at hbecomes
  cases hbecomes with
  | answer answer =>
    have hj := hs.eq_of_underway hunder hbefore rfl
    rw [hj] at hstage
    exact hnext.not_closed ⟨_, hstage, rfl⟩

/-- While a submission is under way only loads change the status. -/
theorem Step.status_underway (h : Step s move events next) (hsettled : s.engine.Settled)
    (hs : s.Flagged) (hunder : s.Underway i formId payload)
    (hnext : next.Underway i formId payload) :
    (¬ next.LoadChanges move ∧ next.engine.status = s.engine.status) ∨
    (next.LoadChanges move ∧ (next.engine.status = .loading ∨ next.engine.status = .ready ∨
      next.engine.status = .loadError)) := by
  obtain ⟨p, hadvance, hstatus⟩ := h.advance_status hsettled
  rw [hstatus]
  cases hadvance with
  | stay hquiet =>
    refine .inl ⟨?_, rfl⟩
    cases move <;> first | exact not_false | cases hquiet
  | startLoad => exact .inr ⟨trivial, .inl (Progress.status_goTo _ _)⟩
  | supersede hstage hlate =>
    obtain ⟨number, source, -, hfetching, -, hiff⟩ := h.finishLoad_outcome
    rw [hstage] at hfetching
    cases hfetching
    exact .inl ⟨not_not_intro (hiff.mpr hlate), rfl⟩
  | load hstage hcurrent =>
    obtain ⟨number, source, -, hfetching, -, hiff⟩ := h.finishLoad_outcome
    rw [hstage] at hfetching
    cases hfetching
    exact .inr ⟨fun heq => hiff.mp heq hcurrent, .inr (.inl (Progress.status_goTo _ _))⟩
  | failLoad hstage hcurrent =>
    obtain ⟨number, source, -, hfetching, -, hiff⟩ := h.finishLoad_outcome
    rw [hstage] at hfetching
    cases hfetching
    exact .inr ⟨fun heq => hiff.mp heq hcurrent, .inr (.inr (Progress.status_goTo _ _))⟩
  | prepare hbegin hready => exact absurd hunder (h.not_prepare hs)
  | accept response => exact absurd hnext (h.not_underway_answer hs hunder)
  | reject error => exact absurd hnext (h.not_underway_answer hs hunder)
  | _ => exact .inl ⟨not_false, rfl⟩

/-- A submission that is under way finds `submitting` as long as no load changed anything, and from
then on a status of loads. -/
theorem Run.status_underway (hq : Run (.fresh options timed) trace q) (hrun : Run q after s)
    (hstart : q.Underway i formId payload) (hstatus : q.engine.status = .submitting)
    (hs : s.Underway i formId payload) :
    ((∀ turn ∈ after, ¬ s.LoadChanges turn.move) ∧ s.engine.status = .submitting) ∨
    ((∃ turn ∈ after, s.LoadChanges turn.move) ∧ (s.engine.status = .loading ∨
      s.engine.status = .ready ∨ s.engine.status = .loadError)) := by
  -- By induction on the run since the preparation. It was under way at each point of it.
  induction hrun with
  | rest => exact .inl ⟨nofun, hstatus⟩
  | @turn after s next move events hrun hstep ih =>
    have hreach := hq.append hrun
    have hunder : s.Underway i formId payload :=
      (hrun.underway hstart).resolve_right fun hclosed => hs.not_closed (hstep.closed hclosed)
    have hearlier {turn : Turn} (hturn : turn ∈ after) :
        next.LoadChanges turn.move ↔ s.LoadChanges turn.move := hstep.loadChanges_iff hrun hturn
    rcases hstep.status_underway hreach.settled hreach.flagged hunder hs with
      ⟨hidle, hsame⟩ | ⟨hchanges, hloads⟩
    · rw [hsame]
      rcases ih hunder with ⟨hall, hsubmitting⟩ | ⟨⟨turn, hturn, hchanges⟩, hloads⟩
      · refine .inl ⟨fun turn hturn => ?_, hsubmitting⟩
        rcases List.mem_append.mp hturn with hturn | hturn
        · exact fun hchanges => hall turn hturn ((hearlier hturn).mp hchanges)
        · cases List.mem_singleton.mp hturn
          exact hidle
      · exact .inr ⟨⟨turn, List.mem_append_left _ hturn, (hearlier hturn).mpr hchanges⟩, hloads⟩
    · exact .inr ⟨⟨_, List.mem_append_right _ (List.mem_singleton.mpr rfl), hchanges⟩, hloads⟩

/-- A preparation puts the submission under way and goes to `submitting`, or ends it. -/
theorem Step.prepare_cases (h : Step s (.prepare i) events next) (hsettled : s.engine.Settled) :
    (∃ formId payload, next.Underway i formId payload ∧ next.engine.status = .submitting) ∨
    next.Closed i := by
  obtain ⟨stage, hstage, hbecomes⟩ := h.becomes (i := i) rfl
  obtain ⟨p, hadvance, hstatus⟩ := h.advance_status hsettled
  generalize s.submits[i]? = before at hbecomes
  cases hbecomes with
  | refuse hbegin => exact .inr ⟨_, hstage, rfl⟩
  | prepare hbegin =>
    refine .inl ⟨_, _, .inl hstage, ?_⟩
    rw [hstatus]
    cases hadvance with
    | stay hquiet => cases hquiet
    | refuse herror => rw [hbegin] at herror; cases herror
    | prepare => exact Progress.status_goTo _ _

/-- Since its preparation a submission finds `submitting` or, once a load changed anything, a status
of loads. -/
theorem Run.status_since_prepare (hrun : Run (.fresh options timed) trace s)
    (hs : s.Underway i formId payload) {before after : List Turn} {told : List FormEvent}
    (htrace : trace = before ++ ⟨.prepare i, told⟩ :: after) :
    ((∀ turn ∈ after, ¬ s.LoadChanges turn.move) ∧ s.engine.status = .submitting) ∨
    ((∃ turn ∈ after, s.LoadChanges turn.move) ∧ (s.engine.status = .loading ∨
      s.engine.status = .ready ∨ s.engine.status = .loadError)) := by
  obtain ⟨p, q, hp, hpq, hq⟩ := hrun.cut htrace
  have hnever {t : Session} (hclosed : t.Closed i) (ht : Run t after s) : False :=
    hs.not_closed (ht.keeps (fun _ _ _ _ hclosed h => h.closed hclosed) hclosed)
  rcases hpq.prepare_cases hp.settled with ⟨formId', payload', hunder, hsubmitting⟩ | hclosed
  · rcases hq.underway hunder with hnow | hclosed
    · exact (hp.turn hpq).status_underway hq hunder hsubmitting hnow
    · exact absurd hclosed hs.not_closed
  · exact absurd hclosed (hnever · hq)

/-- An answer finds `submitting` exactly if no load changed anything since the preparation. -/
theorem Run.status_answer (hrun : Run (.fresh options timed) trace s)
    {answer : Except TransportError SubmitResponse} (h : Step s (.answer i answer) events next) :
    s.engine.status = .submitting ↔ s.Undisturbed trace (.answer i answer) := by
  obtain ⟨formId, payload, hs⟩ : ∃ formId payload, s.Underway i formId payload := by
    cases h with
    | answer _ _ hstage => exact ⟨_, _, .inr hstage⟩
  constructor
  · intro hstatus
    obtain ⟨before, told, after, p, q, htrace, -⟩ := hrun.exists_prepare rfl hs
    rcases hrun.status_since_prepare hs htrace with ⟨hidle, -⟩ | ⟨-, hloads⟩
    · exact ⟨before, told, after, htrace, hidle⟩
    · rw [hstatus] at hloads
      rcases hloads with heq | heq | heq <;> cases heq
  · rintro ⟨before, told, after, htrace, hidle⟩
    rcases hrun.status_since_prepare hs htrace with ⟨-, hstatus⟩ | ⟨⟨turn, hturn, hchanges⟩, -⟩
    · exact hstatus
    · exact absurd hchanges (hidle turn hturn)

/-! ## Loads -/

/-- The number of loads never falls. -/
theorem Run.loads_le (hq : Run (.fresh options timed) trace q) (hrun : Run q after s) :
    q.engine.loads ≤ s.engine.loads := by
  induction hrun with
  | rest => exact Nat.le_refl _
  | turn hrun hstep ih =>
    rw [hstep.loads_count (hq.append hrun).settled]
    omega

/-- While the last load waits only submissions change the status. -/
theorem Step.status_fetching {source : FormSource} (h : Step s move events next)
    (hsettled : s.engine.Settled) (hs : s.Numbered)
    (hcount : s.engine.loads = n + 1) (hnextCount : next.engine.loads = n + 1)
    (hnext : next.loads[n]? = some (.fetching (n + 1) source)) :
    (move.answers = false ∧ next.engine.status = s.engine.status) ∨
    (move.answers = false ∧ s.engine.status.isReady = true ∧ next.engine.status = .submitting) ∨
    (move.answers = true ∧
      (next.engine.status = .submitted ∨ next.engine.status = .submitError)) := by
  have hloads := h.loads_count hsettled
  have hstarts : move.startsLoad = false := by
    cases hstarts : move.startsLoad with
    | false => rfl
    | true => rw [hstarts, hcount, hnextCount] at hloads; simp at hloads
  -- The load that takes effect is the last one, and it waits no longer afterwards.
  have hlast {m number : Nat} {source' : FormSource}
      {answer : Except TransportError FormDefinition}
      (hmove : move = .finishLoad m answer)
      (hstage : s.loads[m]? = some (.fetching number source'))
      (hcurrent : s.engine.loads = number) : False := by
    have hm : m = n := by
      have := hs.number m number source' hstage
      omega
    rw [hmove, hm] at h
    obtain ⟨_, _, _, -, hended, -⟩ := h.finishLoad_outcome
    rw [hended] at hnext
    cases hnext
  obtain ⟨p, hadvance, hstatus⟩ := h.advance_status hsettled
  rw [hstatus]
  cases hadvance with
  | stay hquiet =>
    refine .inl ⟨?_, rfl⟩
    cases move <;> first | rfl | cases hquiet
  | startLoad => cases hstarts
  | load hstage hcurrent => exact (hlast rfl hstage hcurrent).elim
  | failLoad hstage hcurrent => exact (hlast rfl hstage hcurrent).elim
  | prepare hbegin hready => exact .inr (.inl ⟨rfl, hready, Progress.status_goTo _ _⟩)
  | accept response => exact .inr (.inr ⟨rfl, .inl (Progress.status_goTo _ _)⟩)
  | reject error => exact .inr (.inr ⟨rfl, .inr (Progress.status_goTo _ _)⟩)
  | _ => exact .inl ⟨rfl, rfl⟩

/-- The last load finds `loading` as long as no answer came, and from then on a status of
submissions. -/
theorem Run.status_fetching {source : FormSource} (hq : Run (.fresh options timed) trace q)
    (hrun : Run q after s) (hstart : q.engine.loads = n + 1)
    (hstatus : q.engine.status = .loading) (hcount : s.engine.loads = n + 1)
    (hs : s.loads[n]? = some (.fetching (n + 1) source)) :
    ((∀ turn ∈ after, turn.move.answers = false) ∧ s.engine.status = .loading) ∨
    ((∃ turn ∈ after, turn.move.answers = true) ∧ (s.engine.status = .submitting ∨
      s.engine.status = .submitted ∨ s.engine.status = .submitError)) := by
  induction hrun with
  | rest => exact .inl ⟨nofun, hstatus⟩
  | @turn after s next move events hrun hstep ih =>
    have hreach := hq.append hrun
    -- No load was started since, for the number of loads would not have come back.
    have hle := hq.loads_le hrun
    have hnow : s.engine.loads = n + 1 := by
      have := hstep.loads_count hreach.settled
      omega
    have hlength := hreach.numbered.count
    have hbefore : s.loads[n]? = some (.fetching (n + 1) source) := by
      rcases hstep.load_cases n with heq | ⟨_, -, hn, -⟩ | ⟨_, _, stage, -, heq, hclosed⟩
      · exact heq.symm.trans hs
      · omega
      · rw [heq] at hs
        cases hs
        cases hclosed
    have hmember : (⟨move, events⟩ : Turn) ∈ after ++ [⟨move, events⟩] :=
      List.mem_append_right _ (List.mem_singleton.mpr rfl)
    rcases hstep.status_fetching hreach.settled hreach.numbered hnow hcount hs with
      ⟨hmove, hsame⟩ | ⟨hmove, hready, hsubmitting⟩ | ⟨hmove, hend⟩
    · rw [hsame]
      rcases ih hnow hbefore with ⟨hall, hloading⟩ | ⟨⟨turn, hturn, hanswers⟩, hafter⟩
      · refine .inl ⟨fun turn hturn => ?_, hloading⟩
        rcases List.mem_append.mp hturn with hturn | hturn
        · exact hall turn hturn
        · cases List.mem_singleton.mp hturn
          exact hmove
      · exact .inr ⟨⟨turn, List.mem_append_left _ hturn, hanswers⟩, hafter⟩
    · rcases ih hnow hbefore with ⟨-, hloading⟩ | ⟨⟨turn, hturn, hanswers⟩, -⟩
      · rw [hloading] at hready
        cases hready
      · exact .inr ⟨⟨turn, List.mem_append_left _ hturn, hanswers⟩, .inl hsubmitting⟩
    · exact .inr ⟨⟨_, hmember, hmove⟩, .inr hend⟩

/-- A load that waits was started. -/
theorem Run.exists_startLoad (hrun : Run start trace s) (hstart : start.loads = [])
    {number : Nat} {source : FormSource} (hs : s.loads[n]? = some (.fetching number source)) :
    ∃ before source told after, trace = before ++ ⟨.startLoad n source, told⟩ :: after := by
  have hnone : ¬ ∃ number source, start.loads[n]? = some (.fetching number source) := by
    rintro ⟨_, _, heq⟩
    rw [hstart] at heq
    cases heq
  obtain ⟨before, move, told, after, p, q, rfl, -, hpq, -, hnot, ⟨_, _, hyes⟩⟩ :=
    hrun.crossing (P := fun s => ∃ number source, s.loads[n]? = some (.fetching number source))
      hnone ⟨number, source, hs⟩
  rcases hpq.load_cases n with heq | ⟨source, rfl, -, -⟩ | ⟨_, _, stage, -, heq, hclosed⟩
  · exact absurd ⟨_, _, heq.symm.trans hyes⟩ hnot
  · exact ⟨before, source, told, after, rfl⟩
  · rw [heq] at hyes
    cases hyes
    cases hclosed

/-- The start of a load makes it the last one and goes to `loading`. -/
theorem Step.startLoad_next {source : FormSource} (h : Step s (.startLoad n source) events next)
    (hsettled : s.engine.Settled) (hs : s.Numbered) :
    next.engine.loads = n + 1 ∧ next.engine.status = .loading := by
  constructor
  · rw [h.loads_count hsettled, hs.count]
    cases h with
    | startLoad source hn => rw [hn]; rfl
  · obtain ⟨p, hadvance, hstatus⟩ := h.advance_status hsettled
    rw [hstatus]
    cases hadvance with
    | stay hquiet => cases hquiet
    | startLoad => exact Progress.status_goTo _ _

/-- Since its start the last load finds `loading` or, once an answer came, a status of
submissions. -/
theorem Run.status_since_startLoad (hrun : Run (.fresh options timed) trace s)
    {source : FormSource} (hcount : s.engine.loads = n + 1)
    (hs : s.loads[n]? = some (.fetching (n + 1) source)) {before after : List Turn}
    {source' : FormSource} {told : List FormEvent}
    (htrace : trace = before ++ ⟨.startLoad n source', told⟩ :: after) :
    ((∀ turn ∈ after, turn.move.answers = false) ∧ s.engine.status = .loading) ∨
    ((∃ turn ∈ after, turn.move.answers = true) ∧ (s.engine.status = .submitting ∨
      s.engine.status = .submitted ∨ s.engine.status = .submitError)) := by
  obtain ⟨p, q, hp, hpq, hq⟩ := hrun.cut htrace
  obtain ⟨hstart, hloading⟩ := hpq.startLoad_next hp.settled hp.numbered
  exact (hp.turn hpq).status_fetching hq hstart hloading hcount hs

/-- A load that takes effect finds `loading` exactly if no answer came since its start. -/
theorem Run.status_finishLoad (hrun : Run (.fresh options timed) trace s)
    (answer : Except TransportError FormDefinition) {number : Nat} {source : FormSource}
    (hstage : s.loads[n]? = some (.fetching number source)) (hcurrent : s.engine.loads = number) :
    s.engine.status = .loading ↔ s.Undisturbed trace (.finishLoad n answer) := by
  obtain rfl : number = n + 1 := hrun.numbered.number n number source hstage
  constructor
  · intro hstatus
    obtain ⟨before, source', told, after, htrace⟩ := hrun.exists_startLoad rfl hstage
    rcases hrun.status_since_startLoad hcurrent hstage htrace with ⟨hnone, -⟩ | ⟨-, hafter⟩
    · exact ⟨before, source', told, after, htrace, hnone⟩
    · rw [hstatus] at hafter
      rcases hafter with heq | heq | heq <;> cases heq
  · rintro ⟨before, source', told, after, htrace, hnone⟩
    rcases hrun.status_since_startLoad hcurrent hstage htrace with
      ⟨-, hloading⟩ | ⟨⟨turn, hturn, hanswers⟩, -⟩
    · exact hloading
    · rw [hnone turn hturn] at hanswers
      cases hanswers

/-! ## The diagram -/

/-- A change of the status follows the diagram exactly if the move that makes it was undisturbed.
Starts of loads and preparations always are. -/
theorem Run.precedes_iff (hrun : Run (.fresh options timed) trace s)
    (h : Step s move events next) {a b : FormStatus} (hmem : .statusChange a b ∈ events) :
    a.precedes b = true ↔ s.Undisturbed trace move := by
  obtain ⟨rfl, hmoves⟩ := h.statusChange_cases hrun.settled hmem
  rcases hmoves with ⟨n, source, rfl, rfl⟩ | ⟨n, answer, number, source, rfl, hstage, hcurrent, hb⟩ |
    ⟨i, rfl, hready, rfl⟩ | ⟨i, answer, rfl, hb⟩
  · exact ⟨fun _ => trivial, fun _ => rfl⟩
  · rw [← hrun.status_finishLoad answer hstage hcurrent]
    rcases hb with rfl | rfl <;> exact decide_eq_true_iff
  · exact ⟨fun _ => trivial, fun _ => hready⟩
  · rw [← hrun.status_answer h]
    rcases hb with rfl | rfl <;> exact decide_eq_true_iff

/-- An answer that comes without anything in between is undisturbed. -/
theorem precedes_iff_noteForm :
    ∃ trace s events next, Run (.fresh {} true) trace s ∧
      Step s (.answer 0 (.ok {})) events next ∧
      .statusChange .submitting .submitted ∈ events ∧
      s.Undisturbed trace (.answer 0 (.ok {})) := by
  obtain ⟨_, _, _, s, hrun, hstage, hstatus, -⟩ := exists_sent false
  have hstep := Step.answer 0 (.ok {}) hstage
  have hmem := hstep.statusChange_answer hrun.settled (by rw [hstatus]; nofun)
  rw [hstatus] at hmem
  exact ⟨_, s, _, _, hrun, hstep, hmem, (hrun.precedes_iff hstep hmem).mp rfl⟩

/-- An answer that comes while another form is loaded goes from `loading` to `submitError`. -/
theorem answer_during_load_leaves_diagram :
    ¬ ∀ (options : EngineOptions) (timed : Bool) (trace : List Turn) (s : Session) (move : Move)
        (events : List FormEvent) (next : Session) (a b : FormStatus),
      Run (.fresh options timed) trace s → Step s move events next →
      .statusChange a b ∈ events → a.precedes b = true := by
  intro h
  obtain ⟨_, _, _, s, hrun, hstage, -⟩ := exists_sent false
  have hload := Step.startLoad (s := s) (.id "other") rfl
  have hloading := (hload.startLoad_next hrun.settled hrun.numbered).2
  have hwaiting := (hload.submits_eq (i := 0) nofun).trans hstage
  have hstep := Step.answer 0 (.error (.unavailable "offline")) hwaiting
  have hlate := hrun.turn hload
  have hmem := hstep.statusChange_answer hlate.settled (by rw [hloading]; nofun)
  have hfollows := h _ _ _ _ _ _ _ _ _ hlate hstep hmem
  rw [hloading] at hfollows
  cases hfollows

end Session

end LiveForm
