import LiveForm.Proofs.Session.Status

/-!
# One submission at a time

Whoever has the flag keeps others out, and gives it back once. A submission that comes too early or
too late is skipped, and being skipped is no event: none of its moves tells of anything, sends
anything or changes anything but the flag, and the flag only where no other submission has it.

A skipped submission is known by its end alone. What it went through follows backwards: a stage that
is `SubmitStage.untouched` can only have come from such a stage.
-/

namespace LiveForm

/-- Nothing was done for the submission: it has just entered, or is skipped. -/
def SubmitStage.untouched : SubmitStage → Bool
  | entered | finished (.skipped _) | ended (.skipped _) => true
  | _ => false

namespace Session

variable {options : EngineOptions} {timed : Bool} {start s next : Session} {move : Move}
  {events : List FormEvent} {trace : List Turn} {i j : Nat}

/-! ## Skipped submissions -/

/-- A move leaves a submission untouched only if it was, or has just begun. -/
theorem Becomes.untouched_before {e : Engine} {before : Option SubmitStage} {stage : SubmitStage}
    (h : Becomes e i move before stage) (hstage : stage.untouched = true) :
    before.all SubmitStage.untouched = true := by
  cases h with
  | enter hflag => rfl
  | skip hflag => rfl
  | refuse hbegin => rfl
  | @leave outcome => cases outcome <;> exact hstage
  | answer answer =>
    cases answer with
    | ok response => cases hstage
    | error error => cases hstage
  | prepare hbegin => cases hstage
  | send => cases hstage
  | drop hholds => cases hstage

/-- Something was done for the submission. -/
def Touched (s : Session) (i : Nat) : Prop :=
  ∃ stage, s.submits[i]? = some stage ∧ stage.untouched = false

/-- What was done for a submission stays done. -/
theorem Step.touched (h : Step s move events next) (hs : s.Touched i) : next.Touched i := by
  obtain ⟨stage, hstage, htouched⟩ := hs
  by_cases hi : move.submit? = some i
  · obtain ⟨later, hlater, hbecomes⟩ := h.becomes hi
    refine ⟨later, hlater, ?_⟩
    cases huntouched : later.untouched with
    | false => rfl
    | true =>
      have hbefore := hbecomes.untouched_before huntouched
      rw [hstage, Option.all_some, htouched] at hbefore
      cases hbefore
  · exact ⟨stage, (h.submits_eq hi).trans hstage, htouched⟩

/-- A submission that is skipped in the end was untouched ever since it began. -/
theorem Run.untouched (hrun : Run start trace s) {stage later : SubmitStage}
    (hstart : start.submits[i]? = some stage) (hs : s.submits[i]? = some later)
    (hlater : later.untouched = true) : stage.untouched = true := by
  cases htouched : stage.untouched with
  | true => rfl
  | false =>
    obtain ⟨found, hfound, hdone⟩ := hrun.keeps (P := fun s => s.Touched i)
      (fun _ _ _ _ hs h => h.touched hs) ⟨stage, hstart, htouched⟩
    rw [hs] at hfound
    cases hfound
    rw [hlater] at hdone
    cases hdone

/-- A move that leaves its submission untouched tells of nothing, sends nothing, and changes nothing
but the flag. -/
theorem Step.silent (h : Step s move events next) (hsettled : s.engine.Settled)
    (hi : move.submit? = some i) {stage : SubmitStage} (hnext : next.submits[i]? = some stage)
    (hstage : stage.untouched = true) :
    events = [] ∧ (∀ formId payload, move ≠ .send i formId payload) ∧
      next.engine = { s.engine with submitting := next.engine.submitting } := by
  have hset {found : SubmitStage} (hfound : s.submits[i]? = some found) {new : SubmitStage}
      (hnew : (s.submits.set i new)[i]? = some stage) : stage = new := by
    rw [List.getElem?_set_self (List.getElem?_eq_some_iff.mp hfound).1] at hnew
    exact (Option.some.inj hnew).symm
  cases h with
  | enter hlength hflag =>
    rw [(Engine.acquire_eq_some.mp hflag).2]
    exact ⟨rfl, nofun, rfl⟩
  | skip hlength hflag => exact ⟨rfl, nofun, rfl⟩
  | prepare _ hfound hbegin =>
    cases hi
    rw [hset hfound hnext] at hstage
    cases hstage
  | @refuse _ outcome hfound hbegin =>
    cases hi
    rw [hset hfound hnext] at hstage
    cases outcome with
    | skipped reason =>
      rw [Engine.beginSubmit_skipped hsettled hbegin]
      exact ⟨rfl, nofun, rfl⟩
    | _ => cases hstage
  | send _ hfound =>
    cases hi
    rw [hset hfound hnext] at hstage
    cases hstage
  | answer _ answer hfound =>
    cases hi
    rw [hset hfound hnext] at hstage
    cases answer with
    | ok response => cases hstage
    | error error => cases hstage
  | leave _ hfound => exact ⟨rfl, nofun, rfl⟩
  | drop _ hfound hholds =>
    cases hi
    rw [hset hfound hnext] at hstage
    cases hstage
  | _ => cases hi

/-- A move about one submission leaves the flag with another one that has it. -/
theorem Step.holds_other (h : Step s move events next) (hi : move.submit? = some i)
    (hnext : next.Flagged) (hj : j ≠ i) (hs : s.Holds j) :
    next.Holds j ∧ next.engine.submitting = true := by
  have hplace : move.submit? ≠ some j := fun heq => hj (Option.some.inj (heq.symm.trans hi))
  have hholds : next.Holds j := by
    rw [holds_iff, h.submits_eq hplace, ← holds_iff]
    exact hs
  exact ⟨hholds, hnext.taken.mpr ⟨j, hholds⟩⟩

/-! ## Exclusion -/

/-- The flag is taken exactly as long as some submission has it, only one has it, and so at most one
waits for the transport. The moves of a submission that is skipped tell of nothing, send nothing,
leave the engine as it is but for the flag, and leave the flag with any other submission that has
it. -/
theorem Run.one_submission (hrun : Run (.fresh options timed) trace s) :
    (s.engine.submitting = true ↔ ∃ i, s.Holds i) ∧
    (∀ i j, s.Holds i → s.Holds j → i = j) ∧
    (∀ (i j : Nat) (formId formId' : String) (payload payload' : Payload),
      s.submits[i]? = some (.sent formId payload) →
      s.submits[j]? = some (.sent formId' payload') → i = j) ∧
    ∀ i reason, s.submits[i]? = some (.ended (.skipped reason)) →
      ∀ before move told after, trace = before ++ ⟨move, told⟩ :: after →
        move.submit? = some i →
        ∃ p q, Run (.fresh options timed) before p ∧ Step p move told q ∧ Run q after s ∧
          told = [] ∧ (∀ formId payload, move ≠ .send i formId payload) ∧
          q.engine = { p.engine with submitting := q.engine.submitting } ∧
          ∀ j, j ≠ i → p.Holds j → q.Holds j ∧ q.engine.submitting = true := by
  have hflagged := hrun.flagged
  refine ⟨hflagged.taken, hflagged.single, ?_, ?_⟩
  · intro i j formId formId' payload payload' hi hj
    exact hflagged.single i j ⟨_, hi, rfl⟩ ⟨_, hj, rfl⟩
  · intro i reason hs before move told after htrace hi
    obtain ⟨p, q, hp, hpq, hq⟩ := hrun.cut htrace
    obtain ⟨stage, hstage, -⟩ := hpq.becomes hi
    have huntouched : stage.untouched = true := hq.untouched hstage hs rfl
    obtain ⟨htold, hsend, hengine⟩ := hpq.silent hp.settled hi hstage huntouched
    refine ⟨p, q, hp, hpq, hq, htold, hsend, hengine, ?_⟩
    intro j hj hholds
    exact hpq.holds_other hi (hp.turn hpq).flagged hj hholds

/-- A second submission is skipped while the first one waits for its answer, and leaves it the
flag. -/
theorem one_submission_noteForm :
    ∃ trace s, Run (.fresh {} true) trace s ∧ s.submits[0]? = some (.sent "note" ⟨.obj []⟩) ∧
      s.submits[1]? = some (.ended (.skipped .inFlight)) ∧ s.engine.submitting = true ∧
      (∀ i, s.Holds i → i = 0) ∧
      ∃ before told, trace = before ++ [⟨.enter 1, told⟩] ∧ told = [] := by
  obtain ⟨origin, hloaded⟩ := run_loadedWith {} noteForm
  have hsent := ((hloaded.turn (.enter rfl rfl)).turn (.prepare 0 rfl rfl)).turn (.send 0 rfl)
  obtain ⟨before, told, s, hrun, hfirst, hsecond⟩ : ∃ before told s,
      Run (.fresh {} true) (before ++ [⟨.enter 1, told⟩]) s ∧
      s.submits[0]? = some (.sent "note" ⟨.obj []⟩) ∧
      s.submits[1]? = some (.ended (.skipped .inFlight)) :=
    ⟨_, _, _, hsent.turn (.skip (i := 1) rfl rfl), rfl, rfl⟩
  obtain ⟨htaken, hsingle, -, hskip⟩ := hrun.one_submission
  have hholds : s.Holds 0 := ⟨_, hfirst, rfl⟩
  obtain ⟨p, q, -, -, -, htold, -⟩ := hskip 1 .inFlight hsecond before (.enter 1) told [] rfl rfl
  exact ⟨_, s, hrun, hfirst, hsecond, htaken.mpr ⟨0, hholds⟩, fun i hi => hsingle i 0 hi hholds,
    before, told, rfl, htold⟩

end Session

end LiveForm
