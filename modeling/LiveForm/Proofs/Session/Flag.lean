import LiveForm.Proofs.Session.Stages

/-!
# Status, flag and numbers

`Step.advance` says what each move does to the status, the flag and the number of loads. Two
invariants follow. In a `Flagged` session the flag is taken exactly as long as some submission has
it, and no two have it. In a `Numbered` session the number of a load is its place, counted from one,
so that the last load that was started is the one with the current number.
-/

namespace LiveForm.Session

namespace Move

/-- The move leaves the status, the flag and the number of loads as they are. -/
def quiet : Move → Bool
  | call _ | attachRenderer | addRule _ _ | addWidget _ _ | expire _ | dropLoad _ | send _ _ _ =>
    true
  | _ => false

end Move

variable {options : EngineOptions} {timed : Bool} {start s next : Session} {move : Move}
  {events : List FormEvent} {trace : List Turn} {i j n : Nat}

/-- How far a move brings the engine, before its events are taken. -/
inductive Advance (s : Session) : Move → Progress → Prop
  | stay {move : Move} (hquiet : move.quiet = true) : Advance s move s.engine.progress
  | startLoad {n : Nat} {source : FormSource} :
      Advance s (.startLoad n source)
        (({ s.engine.progress with loads := s.engine.loads + 1 }).goTo .loading)
  | supersede {n number : Nat} {source : FormSource}
      {answer : Except TransportError FormDefinition}
      (hstage : s.loads[n]? = some (.fetching number source)) (hlate : s.engine.loads ≠ number) :
      Advance s (.finishLoad n answer) s.engine.progress
  | load {n number : Nat} {source : FormSource} {answer : Except TransportError FormDefinition}
      (hstage : s.loads[n]? = some (.fetching number source))
      (hcurrent : s.engine.loads = number) :
      Advance s (.finishLoad n answer) (s.engine.progress.goTo .ready)
  | failLoad {n number : Nat} {source : FormSource} {answer : Except TransportError FormDefinition}
      (hstage : s.loads[n]? = some (.fetching number source))
      (hcurrent : s.engine.loads = number) :
      Advance s (.finishLoad n answer) (s.engine.progress.goTo .loadError)
  | enter {i : Nat} (hflag : s.engine.submitting = false) :
      Advance s (.enter i) { s.engine.progress with submitting := true }
  | skip {i : Nat} (hflag : s.engine.submitting = true) : Advance s (.enter i) s.engine.progress
  | prepare {i : Nat} {formId : String} {payload : Payload}
      (hbegin : s.engine.beginSubmit.1 = .ok (formId, payload))
      (hready : s.engine.status.isReady = true) :
      Advance s (.prepare i) (s.engine.progress.goTo .submitting)
  | refuse {i : Nat} {outcome : SubmitOutcome} (hbegin : s.engine.beginSubmit.1 = .error outcome) :
      Advance s (.prepare i) s.engine.progress
  | accept {i : Nat} (response : SubmitResponse) :
      Advance s (.answer i (.ok response)) (s.engine.progress.goTo .submitted)
  | reject {i : Nat} (error : TransportError) :
      Advance s (.answer i (.error error)) (s.engine.progress.goTo .submitError)
  | leave {i : Nat} : Advance s (.leave i) { s.engine.progress with submitting := false }
  | drop {i : Nat} : Advance s (.drop i) { s.engine.progress with submitting := false }

/-- A step of a settled session tells of the status changes on the way that it advances. -/
theorem Step.advance (h : Step s move events next) (hsettled : s.engine.Settled) :
    ∃ p, Advance s move p ∧ statusChanges events = p.changes ∧
      next.engine.progress = { p with changes := [] } := by
  -- Where an operation is drained, its events and its progress are those of the engine before.
  have hdrain {p : Progress} (e : Engine) (heq : e.progress = p) :
      statusChanges e.drain.1 = p.changes ∧
        e.drain.2.progress = { p with changes := [] } := by
    rw [Engine.statusChanges_drain, Engine.progress_drain, heq]
    exact ⟨rfl, rfl⟩
  have hstay (hquiet : move.quiet = true) (hevents : statusChanges events = [])
      (heq : next.engine.progress = s.engine.progress) :
      ∃ p, Advance s move p ∧ statusChanges events = p.changes ∧
        next.engine.progress = { p with changes := [] } :=
    ⟨_, .stay hquiet, hevents.trans hsettled.changes.symm, heq.trans hsettled.progress_eq⟩
  have hflagged (taken : Bool) :
      ({ s.engine with submitting := taken }).progress =
        { { s.engine.progress with submitting := taken } with changes := [] } :=
    congrArg (fun p : Progress => { p with submitting := taken }) hsettled.progress_eq
  cases h with
  | call hobey =>
    obtain ⟨done, hdone, rfl, rfl⟩ := Engine.obey_eq_some_iff.mp hobey
    exact ⟨_, .stay rfl, hdrain done (Engine.progress_perform hdone)⟩
  | attachRenderer => exact hstay rfl rfl rfl
  | addRule name rule => exact hstay rfl rfl rfl
  | addWidget kind widget => exact hstay rfl rfl rfl
  | expire message =>
    exact hstay rfl (s.engine.statusChanges_expire message) (s.engine.progress_expire message)
  | startLoad source hn =>
    obtain ⟨started, hstarted, heq⟩ := s.engine.exists_beginLoad
    rw [hstarted]
    exact ⟨_, .startLoad, hdrain started heq⟩
  | finishLoad n answer hstage hfinish =>
    obtain ⟨done, v, rfl, rfl,
      ⟨hlate, -, rfl⟩ | ⟨hcurrent, d, -, -, hdone, -⟩ | ⟨hcurrent, error, -, rfl⟩⟩ :=
      Engine.finishLoad_eq_some hfinish
    · exact ⟨_, .supersede hstage hlate, hdrain { s.engine with validator := v } rfl⟩
    · have heq := Engine.progress_install hdone
      exact ⟨_, .load hstage hcurrent, hdrain done heq⟩
    · exact ⟨_, .failLoad hstage hcurrent, hdrain _ (Engine.progress_failLoad _ error)⟩
  | dropLoad n hstage => exact hstay rfl rfl rfl
  | enter hi hflag =>
    rw [(Engine.acquire_eq_some.mp hflag).2]
    exact ⟨_, .enter (Engine.acquire_eq_some.mp hflag).1, hsettled.changes.symm, hflagged true⟩
  | skip hi hflag =>
    exact ⟨_, .skip (Engine.acquire_eq_none.mp hflag), hsettled.changes.symm, hsettled.progress_eq⟩
  | @prepare i formId payload hstage hbegin =>
    obtain ⟨⟨d, -, hprepared⟩, heq⟩ := Engine.prepare_ok hbegin
    refine ⟨_, .prepare hbegin hprepared.ready, hdrain s.engine.prepare.2 ?_⟩
    rw [heq, Engine.progress_setStatus, Engine.progress_writeErrors]
  | @refuse i outcome hstage hbegin =>
    exact ⟨_, .refuse hbegin, hdrain s.engine.prepare.2 (Engine.prepare_error hbegin).1⟩
  | send i hstage => exact hstay rfl rfl rfl
  | @answer i formId payload answer hstage =>
    cases answer with
    | ok response => exact ⟨_, .accept response, hdrain _ (Engine.progress_accept _ _ _)⟩
    | error error => exact ⟨_, .reject error, hdrain _ (Engine.progress_reject _ _)⟩
  | leave i hstage => exact ⟨_, .leave, hsettled.changes.symm, hflagged false⟩
  | drop i hstage hholds => exact ⟨_, .drop, hsettled.changes.symm, hflagged false⟩

/-- The status after a step is the one to which it advances. -/
theorem Step.advance_status (h : Step s move events next) (hsettled : s.engine.Settled) :
    ∃ p, Advance s move p ∧ next.engine.status = p.status := by
  obtain ⟨p, hadvance, -, hprogress⟩ := h.advance hsettled
  exact ⟨p, hadvance, congrArg Progress.status hprogress⟩

/-! ## The flag -/

/-- The submission has the flag. -/
def Holds (s : Session) (i : Nat) : Prop :=
  ∃ stage, s.submits[i]? = some stage ∧ stage.holds = true

/-- The flag is taken as long as some submission has it, and only one has it. -/
structure Flagged (s : Session) : Prop where
  taken : s.engine.submitting = true ↔ ∃ i, s.Holds i
  single : ∀ i j, s.Holds i → s.Holds j → i = j

theorem holds_iff : s.Holds i ↔ s.submits[i]?.any SubmitStage.holds = true := by
  rw [Option.any_eq_true]
  rfl

/-- A move about a submission leaves the flag as it is, or the submission takes it, or gives it
back. -/
theorem Becomes.flag_cases {before : Option SubmitStage} {stage : SubmitStage} {p : Progress}
    (h : Becomes s.engine i move before stage) (hadvance : Advance s move p) :
    (p.submitting = s.engine.submitting ∧ before.any SubmitStage.holds = stage.holds) ∨
    (s.engine.submitting = false ∧ p.submitting = true ∧ stage.holds = true) ∨
    (before.any SubmitStage.holds = true ∧ p.submitting = false ∧ stage.holds = false) := by
  cases h with
  | enter hflag =>
    cases hadvance with
    | stay hquiet => cases hquiet
    | skip htaken => rw [hflag] at htaken; cases htaken
    | enter _ => exact .inr (.inl ⟨hflag, rfl, rfl⟩)
  | skip hflag =>
    cases hadvance with
    | stay hquiet => cases hquiet
    | enter hfree => rw [hflag] at hfree; cases hfree
    | skip _ => exact .inl ⟨rfl, rfl⟩
  | prepare hbegin =>
    cases hadvance with
    | stay hquiet => cases hquiet
    | prepare => exact .inl ⟨Progress.submitting_goTo _ _, rfl⟩
    | refuse => exact .inl ⟨rfl, rfl⟩
  | refuse hbegin =>
    cases hadvance with
    | stay hquiet => cases hquiet
    | prepare => exact .inl ⟨Progress.submitting_goTo _ _, rfl⟩
    | refuse => exact .inl ⟨rfl, rfl⟩
  | send =>
    cases hadvance with
    | stay => exact .inl ⟨rfl, rfl⟩
  | answer answer =>
    cases hadvance with
    | stay hquiet => cases hquiet
    | accept => exact .inl ⟨Progress.submitting_goTo _ _, rfl⟩
    | reject => exact .inl ⟨Progress.submitting_goTo _ _, rfl⟩
  | leave =>
    cases hadvance with
    | stay hquiet => cases hquiet
    | leave => exact .inr (.inr ⟨rfl, rfl, rfl⟩)
  | drop hholds =>
    cases hadvance with
    | stay hquiet => cases hquiet
    | drop => exact .inr (.inr ⟨hholds, rfl, rfl⟩)

/-- A step leaves the flag as it is, takes it for the submission that it is about, or gives it
back. -/
theorem Step.flag_cases (h : Step s move events next) (hsettled : s.engine.Settled) :
    (next.engine.submitting = s.engine.submitting ∧ ∀ i, next.Holds i ↔ s.Holds i) ∨
    (∃ i, s.engine.submitting = false ∧ next.engine.submitting = true ∧
      ∀ j, next.Holds j ↔ s.Holds j ∨ j = i) ∨
    (∃ i, s.Holds i ∧ next.engine.submitting = false ∧
      ∀ j, next.Holds j ↔ s.Holds j ∧ j ≠ i) := by
  obtain ⟨p, hadvance, -, hprogress⟩ := h.advance hsettled
  have hsubmitting : next.engine.submitting = p.submitting :=
    congrArg Progress.submitting hprogress
  have hother {j : Nat} (hj : move.submit? ≠ some j) : next.Holds j ↔ s.Holds j := by
    rw [holds_iff, holds_iff, h.submits_eq hj]
  cases hmove : move.submit? with
  | none =>
    have hsame : p.submitting = s.engine.submitting := by
      cases hadvance <;> first | rfl | exact Progress.submitting_goTo _ _ | cases hmove
    exact .inl ⟨hsubmitting.trans hsame, fun j => hother (by rw [hmove]; nofun)⟩
  | some i =>
    obtain ⟨stage, hstage, hbecomes⟩ := h.becomes hmove
    have hplace {j : Nat} (hj : ¬ j = i) : next.Holds j ↔ s.Holds j :=
      hother fun heq => hj (Option.some.inj (heq.symm.trans hmove))
    have hafter : next.Holds i ↔ stage.holds = true := by
      rw [holds_iff, hstage]
      rfl
    -- Only the submission that the move is about can take the flag or give it back.
    rcases hbecomes.flag_cases hadvance with
      ⟨hsame, hholds⟩ | ⟨hfree, htaken, hholds⟩ | ⟨hheld, hfree, hholds⟩
    · refine .inl ⟨hsubmitting.trans hsame, fun j => ?_⟩
      by_cases hj : j = i
      · rw [hj, hafter, holds_iff, hholds]
      · exact hplace hj
    · refine .inr (.inl ⟨i, hfree, hsubmitting.trans htaken, fun j => ?_⟩)
      by_cases hj : j = i
      · rw [hj, hafter]
        exact ⟨fun _ => .inr rfl, fun _ => hholds⟩
      · rw [hplace hj]
        exact ⟨.inl, fun hor => hor.resolve_right hj⟩
    · refine .inr (.inr ⟨i, holds_iff.mpr hheld, hsubmitting.trans hfree, fun j => ?_⟩)
      by_cases hj : j = i
      · rw [hj, hafter, hholds]
        exact ⟨nofun, fun hboth => absurd rfl hboth.2⟩
      · rw [hplace hj]
        exact ⟨fun hs => ⟨hs, hj⟩, fun hboth => hboth.1⟩

/-- Every step keeps the session flagged. -/
theorem Step.flagged (h : Step s move events next) (hsettled : s.engine.Settled)
    (hs : s.Flagged) : next.Flagged := by
  rcases h.flag_cases hsettled with
    ⟨hsame, hholds⟩ | ⟨i, hfree, htaken, hholds⟩ | ⟨i, hi, hfree, hholds⟩
  · refine ⟨?_, fun i j hi hj => hs.single i j ((hholds i).mp hi) ((hholds j).mp hj)⟩
    simp only [hsame, hholds]
    exact hs.taken
  · -- The flag was free, so nobody else has it.
    have hnone (j : Nat) : ¬ s.Holds j := by
      intro hj
      rw [hs.taken.mpr ⟨j, hj⟩] at hfree
      cases hfree
    have honly (j : Nat) (hj : next.Holds j) : j = i := ((hholds j).mp hj).resolve_left (hnone j)
    exact ⟨⟨fun _ => ⟨i, (hholds i).mpr (.inr rfl)⟩, fun _ => htaken⟩,
      fun j k hj hk => (honly j hj).trans (honly k hk).symm⟩
  · have hnone (j : Nat) : ¬ next.Holds j := fun hj =>
      ((hholds j).mp hj).2 (hs.single j i ((hholds j).mp hj).1 hi)
    refine ⟨⟨fun htaken => ?_, fun ⟨j, hj⟩ => absurd hj (hnone j)⟩,
      fun j k hj => absurd hj (hnone j)⟩
    rw [hfree] at htaken
    cases htaken

/-- Between any two moves the flag is taken exactly if a submission has it. -/
theorem Run.flagged (hrun : Run (.fresh options timed) trace s) : s.Flagged := by
  refine (hrun.keeps (P := fun s => s.engine.Settled ∧ s.Flagged)
    (fun _ _ _ _ hs h => ⟨h.settled hs.1, h.flagged hs.1 hs.2⟩) ⟨rfl, ?_⟩).2
  have hnone (i : Nat) : ¬ (fresh options timed).Holds i := by
    rintro ⟨_, heq, -⟩
    cases heq
  exact ⟨⟨nofun, fun ⟨i, hi⟩ => absurd hi (hnone i)⟩, fun i j hi => absurd hi (hnone i)⟩

/-! ## Numbers of loads -/

/-- The number of a load that waits is its place, counted from one. -/
structure Numbered (s : Session) : Prop where
  count : s.engine.loads = s.loads.length
  number : ∀ n number source, s.loads[n]? = some (.fetching number source) → number = n + 1

/-- A step leaves the stage of a load as it is, or starts the load, or brings it to its end. -/
theorem Step.load_cases (h : Step s move events next) (n : Nat) :
    next.loads[n]? = s.loads[n]? ∨
    (∃ source, move = .startLoad n source ∧ n = s.loads.length ∧
      next.loads[n]? = some (.fetching (s.engine.loads + 1) source)) ∨
    (∃ number source stage, s.loads[n]? = some (.fetching number source) ∧
      next.loads[n]? = some stage ∧ stage.closed = true) := by
  by_cases hn : move.load? = some n
  · cases h with
    | startLoad source hlength =>
      cases hn
      refine .inr (.inl ⟨source, rfl, hlength, ?_⟩)
      obtain ⟨started, hstarted, -⟩ := s.engine.exists_beginLoad
      rw [hlength, hstarted]
      exact List.getElem?_concat_length
    | @finishLoad _ number source answer _ _ _ hstage hfinish =>
      cases hn
      exact .inr (.inr ⟨number, source, _, hstage,
        List.getElem?_set_self (List.getElem?_eq_some_iff.mp hstage).1, rfl⟩)
    | @dropLoad _ number source hstage =>
      cases hn
      exact .inr (.inr ⟨number, source, _, hstage,
        List.getElem?_set_self (List.getElem?_eq_some_iff.mp hstage).1, rfl⟩)
    | _ => cases hn
  · exact .inl (h.loads_eq hn)

/-- Only the start of a load changes how many there are. -/
theorem Step.loads_length (h : Step s move events next) :
    next.loads.length = s.loads.length + if move.startsLoad then 1 else 0 := by
  cases h with
  | startLoad source hn => exact List.length_append
  | finishLoad n answer hstage hfinish => exact List.length_set
  | dropLoad n hstage => exact List.length_set
  | _ => rfl

theorem Step.loads_count (h : Step s move events next) (hsettled : s.engine.Settled) :
    next.engine.loads = s.engine.loads + if move.startsLoad then 1 else 0 := by
  obtain ⟨p, hadvance, -, hprogress⟩ := h.advance hsettled
  have hloads : next.engine.loads = p.loads := congrArg Progress.loads hprogress
  rw [hloads]
  cases hadvance with
  | stay hquiet =>
    cases move with
    | startLoad => cases hquiet
    | _ => rfl
  | startLoad => exact Progress.loads_goTo _ _
  | load => exact Progress.loads_goTo _ _
  | failLoad => exact Progress.loads_goTo _ _
  | prepare => exact Progress.loads_goTo _ _
  | accept => exact Progress.loads_goTo _ _
  | reject => exact Progress.loads_goTo _ _
  | _ => rfl

/-- Every step keeps the session numbered. -/
theorem Step.numbered (h : Step s move events next) (hsettled : s.engine.Settled)
    (hs : s.Numbered) : next.Numbered := by
  refine ⟨?_, fun n number source hstage => ?_⟩
  · rw [h.loads_count hsettled, h.loads_length, hs.count]
  · rcases h.load_cases n with heq | ⟨_, -, hn, heq⟩ | ⟨_, _, stage, -, heq, hclosed⟩
    · exact hs.number n number source (heq ▸ hstage)
    · rw [heq] at hstage
      cases hstage
      rw [hs.count, hn]
    · rw [heq] at hstage
      cases hstage
      cases hclosed

/-- Between any two moves the number of a load that waits is its place, counted from one. -/
theorem Run.numbered (hrun : Run (.fresh options timed) trace s) : s.Numbered :=
  (hrun.keeps (P := fun s => s.engine.Settled ∧ s.Numbered)
    (fun _ _ _ _ hs h => ⟨h.settled hs.1, h.numbered hs.1 hs.2⟩) ⟨rfl, rfl, nofun⟩).2

end LiveForm.Session
