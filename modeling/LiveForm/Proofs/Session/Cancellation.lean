import LiveForm.Proofs.Session.Status

/-!
# What a dropped load or submission leaves

A submission gives the flag back however it ends. The status is another matter: it is only set back
by the answer, and a submission that is dropped before has none. The form then stays `submitting`
with nobody at work on it, and refuses every further submission until a load comes to its help. In
the same way it stays `loading` when the last load is dropped.

`Since` picks out the last turn that set the status. From it `Run.unattended` says exactly when a
form on which nothing is pending still reads as if something were.
-/

namespace LiveForm.Session

/-- A turn was taken, and no change of the status was told since. -/
def Since (trace : List Turn) (turn : Turn) : Prop :=
  ∃ before after, trace = before ++ turn :: after ∧
    ∀ later ∈ after, statusChanges later.events = []

/-- The load waits for what it loads. -/
def Fetching (s : Session) (n : Nat) : Prop :=
  ∃ number source, s.loads[n]? = some (.fetching number source)

variable {options : EngineOptions} {timed : Bool} {start s q next : Session} {move : Move}
  {events : List FormEvent} {trace after : List Turn} {turn : Turn} {i n : Nat}

/-! ## The last turn that set the status -/

theorem Since.last (trace : List Turn) (turn : Turn) : Since (trace ++ [turn]) turn :=
  ⟨trace, [], rfl, nofun⟩

/-- A turn that tells of no change leaves the last one that did. -/
theorem Since.later (h : Since trace turn) (hstill : statusChanges events = []) (move : Move) :
    Since (trace ++ [⟨move, events⟩]) turn := by
  obtain ⟨before, after, rfl, hafter⟩ := h
  refine ⟨before, after ++ [⟨move, events⟩], by rw [List.append_assoc, List.cons_append], ?_⟩
  intro later hlater
  rcases List.mem_append.mp hlater with hlater | hlater
  · exact hafter later hlater
  · rw [List.mem_singleton.mp hlater]
    exact hstill

/-- A step tells of no change of the status exactly if the status stays. -/
theorem Step.still_iff (h : Step s move events next) (hsettled : s.engine.Settled) :
    statusChanges events = [] ↔ next.engine.status = s.engine.status := by
  rw [h.statusChanges_eq hsettled]
  by_cases heq : s.engine.status = next.engine.status
  · rw [if_pos heq]
    exact ⟨fun _ => heq.symm, fun _ => rfl⟩
  · rw [if_neg heq]
    exact ⟨nofun, fun hsame => absurd hsame.symm heq⟩

/-- The status stays as long as no change of it is told. -/
theorem Run.status_still (hq : Run (.fresh options timed) trace q) (hrun : Run q after s)
    (hstill : ∀ turn ∈ after, statusChanges turn.events = []) :
    s.engine.status = q.engine.status := by
  induction hrun with
  | rest => rfl
  | turn hrun hstep ih =>
    have hbefore := ih fun turn hturn => hstill turn (List.mem_append_left _ hturn)
    have hlast := hstill _ (List.mem_append_right _ (List.mem_singleton.mpr rfl))
    exact ((hstep.still_iff (hq.append hrun).settled).mp hlast).trans hbefore

/-- The status is the one that the last turn that set it had left. -/
theorem Run.status_since (hrun : Run (.fresh options timed) trace s) (hsince : Since trace turn) :
    ∃ before p q, Run (.fresh options timed) before p ∧ Step p turn.move turn.events q ∧
      s.engine.status = q.engine.status := by
  obtain ⟨before, after, htrace, hafter⟩ := hsince
  obtain ⟨p, q, hp, hpq, hq⟩ := hrun.cut htrace
  exact ⟨before, p, q, hp, hpq, (hp.turn hpq).status_still hq hafter⟩

/-! ## Submissions -/

/-- A submission that was brought under way stays under way or is dropped, as long as the form is
`submitting`: its answer would change the status. -/
theorem Step.underway_or_dropped (h : Step s move events next) (hsettled : s.engine.Settled)
    (hstatus : next.engine.status = .submitting)
    (hs : (∃ formId payload, s.Underway i formId payload) ∨ s.submits[i]? = some .dropped) :
    (∃ formId payload, next.Underway i formId payload) ∨ next.submits[i]? = some .dropped := by
  by_cases hi : move.submit? = some i
  · obtain ⟨stage, hstage, hbecomes⟩ := h.becomes hi
    obtain ⟨p, hadvance, hp⟩ := h.advance_status hsettled
    rw [hp] at hstatus
    generalize hbefore : s.submits[i]? = before at hbecomes
    -- Only three moves are about a submission that was prepared and is not answered yet.
    cases hbecomes with
    | send => exact .inl ⟨_, _, .inr hstage⟩
    | drop hholds => exact .inr hstage
    | answer answer =>
      cases hadvance with
      | stay hquiet => cases hquiet
      | accept => rw [Progress.status_goTo] at hstatus; cases hstatus
      | reject => rw [Progress.status_goTo] at hstatus; cases hstatus
    | _ => simp [Underway, hbefore] at hs
  · simpa only [Underway, h.submits_eq hi] using hs

/-- A preparation that changes the status brings its submission under way. -/
theorem Step.underway_of_prepare (h : Step s (.prepare i) events next)
    (hne : next.engine.status ≠ s.engine.status) :
    ∃ formId payload, next.Underway i formId payload := by
  cases h with
  | @prepare _ formId payload hstage hbegin =>
    exact ⟨formId, payload,
      .inl (List.getElem?_set_self (List.getElem?_eq_some_iff.mp hstage).1)⟩
  | @refuse _ outcome hstage hbegin =>
    have hsame : s.engine.prepare.2.drain.2.status = s.engine.status := by
      have hprogress := Engine.prepare_error hbegin
      exact congrArg Progress.status hprogress.1
    exact absurd hsame hne

/-- A form that is `submitting` was brought there by a preparation, and the submission was not
answered since. -/
theorem Run.submitting_since (hrun : Run (.fresh options timed) trace s)
    (hs : s.engine.status = .submitting) :
    ∃ i a told, Since trace ⟨.prepare i, told⟩ ∧ .statusChange a .submitting ∈ told ∧
      ((∃ formId payload, s.Underway i formId payload) ∨ s.submits[i]? = some .dropped) := by
  induction hrun with
  | rest => cases hs
  | @turn trace s next move events hrun hstep ih =>
    have hsettled := hrun.settled
    by_cases hbefore : s.engine.status = .submitting
    · obtain ⟨i, a, told, hsince, hmem, hstage⟩ := ih hbefore
      have hstill := (hstep.still_iff hsettled).mpr (hs.trans hbefore.symm)
      exact ⟨i, a, told, hsince.later hstill move, hmem,
        hstep.underway_or_dropped hsettled hs hstage⟩
    · -- The step that changes the status tells of it, and only a preparation goes to `submitting`.
      have hmem : .statusChange s.engine.status .submitting ∈ events := by
        refine mem_statusChanges.mp ?_
        rw [hstep.statusChanges_eq hsettled, hs, if_neg hbefore]
        exact List.mem_singleton.mpr rfl
      obtain ⟨-, hmoves⟩ := hstep.statusChange_cases hsettled hmem
      rcases hmoves with ⟨_, _, -, hb⟩ | ⟨_, _, _, _, -, -, -, hb⟩ | ⟨i, rfl, -, -⟩ |
        ⟨_, _, -, hb⟩
      · cases hb
      · rcases hb with hb | hb <;> cases hb
      · exact ⟨i, _, events, Since.last trace _, hmem,
          .inl (hstep.underway_of_prepare (hs ▸ Ne.symm hbefore))⟩
      · rcases hb with hb | hb <;> cases hb

/-! ## Loads -/

/-- The last load waits or is dropped, as long as the form is `loading`: its end would change the
status. -/
theorem Step.fetching_or_dropped (h : Step s move events next) (hsettled : s.engine.Settled)
    (hnumbered : s.Numbered) (hstatus : next.engine.status = .loading)
    (hn : n + 1 = s.loads.length)
    (hs : s.Fetching n ∨ s.loads[n]? = some .dropped) :
    next.Fetching n ∨ next.loads[n]? = some .dropped := by
  by_cases hmove : move.load? = some n
  · obtain ⟨p, hadvance, hp⟩ := h.advance_status hsettled
    rw [hp] at hstatus
    cases h with
    | startLoad source hlength =>
      cases hmove
      omega
    | dropLoad n hstage =>
      cases hmove
      exact .inr (List.getElem?_set_self (List.getElem?_eq_some_iff.mp hstage).1)
    | @finishLoad _ number source answer _ _ _ hstage hfinish =>
      cases hmove
      -- The last load has the current number, so that it is not superseded.
      have hnumber := hnumbered.number n number source hstage
      have hcount := hnumbered.count
      cases hadvance with
      | stay hquiet => cases hquiet
      | load => rw [Progress.status_goTo] at hstatus; cases hstatus
      | failLoad => rw [Progress.status_goTo] at hstatus; cases hstatus
      | supersede hother hlate =>
        rw [hstage] at hother
        cases hother
        omega
    | _ => cases hmove
  · simpa only [Fetching, h.loads_eq hmove] using hs

/-- A form that is `loading` was brought there by a load, and the last load did not end since it was
started. -/
theorem Run.loading_since (hrun : Run (.fresh options timed) trace s)
    (hs : s.engine.status = .loading) :
    ∃ n source told, n + 1 = s.loads.length ∧ Since trace ⟨.startLoad n source, told⟩ ∧
      (s.Fetching n ∨ s.loads[n]? = some .dropped) := by
  induction hrun with
  | rest => cases hs
  | @turn trace s next move events hrun hstep ih =>
    have hsettled := hrun.settled
    have hlength := hstep.loads_length
    cases hstarts : move.startsLoad with
    | true =>
      cases hstep with
      | startLoad source hn =>
        subst hn
        refine ⟨s.loads.length, source, _, ?_, Since.last trace _,
          .inl ⟨_, source, List.getElem?_concat_length⟩⟩
        exact hlength.symm
      | _ => cases hstarts
    | false =>
      rw [hstarts] at hlength
      by_cases hbefore : s.engine.status = .loading
      · obtain ⟨n, source, told, hn, hsince, hstage⟩ := ih hbefore
        have hstill := (hstep.still_iff hsettled).mpr (hs.trans hbefore.symm)
        exact ⟨n, source, told, hn.trans hlength.symm, hsince.later hstill move,
          hstep.fetching_or_dropped hsettled hrun.numbered hs hn hstage⟩
      · have hmem : .statusChange s.engine.status .loading ∈ events := by
          refine mem_statusChanges.mp ?_
          rw [hstep.statusChanges_eq hsettled, hs, if_neg hbefore]
          exact List.mem_singleton.mpr rfl
        obtain ⟨-, hmoves⟩ := hstep.statusChange_cases hsettled hmem
        rcases hmoves with ⟨_, _, rfl, -⟩ | ⟨_, _, _, _, -, -, -, hb⟩ | ⟨_, -, -, hb⟩ | ⟨_, _, -, hb⟩
        · cases hstarts
        · rcases hb with hb | hb <;> cases hb
        · cases hb
        · rcases hb with hb | hb <;> cases hb

/-! ## A form that nobody works on -/

/-- A form that is `submitting` refuses every submission. -/
theorem beginSubmit_of_submitting {e : Engine} (hs : e.status = .submitting) :
    e.beginSubmit.1 = .error (.skipped .notReady) := by
  have hready : ¬ e.status.isReady = true := by rw [hs]; nofun
  show e.prepare.1 = _
  rw [Engine.prepare_notReady (.inr hready)]

/-- Where nobody has the flag only loads take the form out of `submitting`. -/
theorem Step.load_of_submitting (h : Step s move events next) (hsettled : s.engine.Settled)
    (hnone : ∀ i, ¬ s.Holds i) (hs : s.engine.status = .submitting)
    (hne : next.engine.status ≠ .submitting) :
    (∃ n source, move = .startLoad n source) ∨ ∃ n answer, move = .finishLoad n answer := by
  have hmem : .statusChange s.engine.status next.engine.status ∈ events := by
    refine mem_statusChanges.mp ?_
    rw [h.statusChanges_eq hsettled, if_neg (hs ▸ Ne.symm hne)]
    exact List.mem_singleton.mpr rfl
  obtain ⟨-, hmoves⟩ := h.statusChange_cases hsettled hmem
  rcases hmoves with ⟨n, source, rfl, -⟩ | ⟨n, answer, _, _, rfl, -⟩ | ⟨i, -, hready, -⟩ |
    ⟨i, answer, rfl, -⟩
  · exact .inl ⟨n, source, rfl⟩
  · exact .inr ⟨n, answer, rfl⟩
  · rw [hs] at hready
    cases hready
  · cases h with
    | answer _ _ hstage => exact absurd ⟨_, hstage, rfl⟩ (hnone i)

/-- Where no submission is pending the flag is free. The form is `submitting` nevertheless exactly
if the last change of its status was made by the preparation of a submission that was dropped; then
it refuses every further submission, and only loads change that. Where no load is pending the form
is `loading` exactly if the last load was dropped and no change of the status was told since it was
started. -/
theorem Run.unattended (hrun : Run (.fresh options timed) trace s) :
    ((∀ i, ¬ s.Holds i) →
      s.engine.submitting = false ∧
      (s.engine.status = .submitting ↔
        ∃ i a told, s.submits[i]? = some .dropped ∧ .statusChange a .submitting ∈ told ∧
          Since trace ⟨.prepare i, told⟩) ∧
      (s.engine.status = .submitting →
        s.engine.beginSubmit.1 = .error (.skipped .notReady) ∧
        ∀ move events next, Step s move events next → next.engine.status ≠ .submitting →
          (∃ n source, move = .startLoad n source) ∨ ∃ n answer, move = .finishLoad n answer)) ∧
    ((∀ n, ¬ s.Fetching n) →
      (s.engine.status = .loading ↔
        ∃ n source told, n + 1 = s.loads.length ∧ s.loads[n]? = some .dropped ∧
          Since trace ⟨.startLoad n source, told⟩)) := by
  refine ⟨fun hnone => ⟨?_, ⟨fun hs => ?_, ?_⟩, fun hs => ⟨beginSubmit_of_submitting hs, ?_⟩⟩,
    fun hnone => ⟨fun hs => ?_, ?_⟩⟩
  · cases hflag : s.engine.submitting with
    | false => rfl
    | true =>
      obtain ⟨i, hi⟩ := hrun.flagged.taken.mp hflag
      exact absurd hi (hnone i)
  · obtain ⟨i, a, told, hsince, hmem, hstage⟩ := hrun.submitting_since hs
    refine ⟨i, a, told, hstage.resolve_left ?_, hmem, hsince⟩
    rintro ⟨formId, payload, hunder | hunder⟩
    · exact hnone i ⟨_, hunder, rfl⟩
    · exact hnone i ⟨_, hunder, rfl⟩
  · rintro ⟨i, a, told, -, hmem, hsince⟩
    obtain ⟨before, p, q, hp, hpq, hstatus⟩ := hrun.status_since hsince
    have hchange := mem_statusChanges.mpr hmem
    rw [hpq.statusChanges_eq hp.settled] at hchange
    split at hchange
    · cases hchange
    · have hq : .submitting = q.engine.status := congrArg Prod.snd (List.mem_singleton.mp hchange)
      exact hstatus.trans hq.symm
  · intro move events next hstep hne
    exact hstep.load_of_submitting hrun.settled hnone hs hne
  · obtain ⟨n, source, told, hn, hsince, hstage⟩ := hrun.loading_since hs
    exact ⟨n, source, told, hn, hstage.resolve_left (hnone n), hsince⟩
  · rintro ⟨n, source, told, -, -, hsince⟩
    obtain ⟨before, p, q, hp, hpq, hstatus⟩ := hrun.status_since hsince
    rw [hstatus]
    exact (hpq.startLoad_next hp.settled hp.numbered).2

/-- The note form can be submitted, and the submission dropped while it waits for its answer. -/
theorem exists_dropped :
    ∃ trace s, Run (.fresh {} true) trace s ∧ (∀ i, ¬ s.Holds i) ∧
      s.engine.status = .submitting := by
  obtain ⟨_, _, _, s, hrun, hstage, hstatus, -⟩ := exists_sent false
  have hdrop := hrun.turn (.drop 0 hstage rfl)
  refine ⟨_, _, hdrop, ?_, hstatus⟩
  intro i hi
  cases hdrop.flagged.taken.mpr ⟨i, hi⟩

/-- A form whose submission was dropped has the flag free, and refuses the next submission. -/
theorem unattended_noteForm :
    ∃ trace s, Run (.fresh {} true) trace s ∧ (∀ i, ¬ s.Holds i) ∧
      s.engine.status = .submitting ∧ s.engine.submitting = false ∧
      s.engine.beginSubmit.1 = .error (.skipped .notReady) := by
  obtain ⟨trace, s, hrun, hnone, hstatus⟩ := exists_dropped
  obtain ⟨hflag, -, hrefused⟩ := hrun.unattended.1 hnone
  exact ⟨trace, s, hrun, hnone, hstatus, hflag, (hrefused hstatus).1⟩

/-- A dropped submission leaves `submitting`, and a dropped load leaves `loading`. -/
theorem dropped_leaves_status :
    (¬ ∀ (options : EngineOptions) (timed : Bool) (trace : List Turn) (s : Session),
      Run (.fresh options timed) trace s → (∀ i, ¬ s.Holds i) →
        s.engine.status ≠ .submitting) ∧
    (¬ ∀ (options : EngineOptions) (timed : Bool) (trace : List Turn) (s : Session),
      Run (.fresh options timed) trace s → (∀ n, ¬ s.Fetching n) →
        s.engine.status ≠ .loading) := by
  constructor
  · intro h
    obtain ⟨trace, s, hrun, hnone, hstatus⟩ := exists_dropped
    exact h _ _ trace s hrun hnone hstatus
  · intro h
    have hload := (Run.rest : Run (.fresh {} true) [] _).turn (.startLoad (.id "note") rfl)
    refine h _ _ _ _ (hload.turn (.dropLoad 0 rfl)) ?_ rfl
    rintro n ⟨number, source, hn⟩
    cases n with
    | zero => cases hn
    | succ n => cases hn

end LiveForm.Session
