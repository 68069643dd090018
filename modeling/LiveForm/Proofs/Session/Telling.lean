import LiveForm.Proofs.Engine.Telling
import LiveForm.Proofs.Session.LatestLoad
import LiveForm.Proofs.Session.View

/-!
# What a run tells

`told` are the events of a run in the order in which the engine changed. Every step tells of what it
does to the data and to the fields that are shown, unless it takes up a form. Along a run in which
none is taken up the last event that describes the data therefore describes them as they are, and
for each field the last event that tells of it says whether it is shown.
-/

namespace LiveForm.Session

/-- What was told in the course of turns, in the order in which the engine changed. -/
def told (turns : List Turn) : List FormEvent := turns.flatMap Turn.events

/-- What was told by the turn at a place. -/
def toldAt (turns : List Turn) (n : Nat) : List FormEvent :=
  (turns[n]?.map Turn.events).getD []

variable {options : EngineOptions} {timed : Bool} {start s next : Session} {move : Move}
  {events : List FormEvent} {trace turns : List Turn} {turn : Turn} {n : Nat}

theorem told_concat (turns : List Turn) (turn : Turn) :
    told (turns ++ [turn]) = told turns ++ turn.events := by
  simp [told]

theorem toldAt_concat (turns : List Turn) (turn : Turn) (n : Nat) :
    toldAt (turns ++ [turn]) n = if n = turns.length then turn.events else toldAt turns n := by
  unfold toldAt
  by_cases hn : n = turns.length
  · rw [if_pos hn, hn, List.getElem?_concat_length]
    rfl
  · rw [if_neg hn]
    by_cases hlt : n < turns.length
    · rw [List.getElem?_append_left hlt]
    · have hpast : turns.length + 1 ≤ n := by omega
      rw [List.getElem?_eq_none (by simpa using hpast), List.getElem?_eq_none (by omega)]

theorem toldAt_of_le (h : turns.length ≤ n) : toldAt turns n = [] := by
  rw [toldAt, List.getElem?_eq_none h]
  rfl

/-! ## The last event -/

section

variable {α : Type} {reads : FormEvent → Option α} {x : α}

end

/-! ## Data and fields that are shown -/

/-- A step tells of what it does to the data and to what is shown, unless it takes up a form. -/
theorem Step.told (h : Step s move events next) (hsettled : s.engine.Settled)
    (hcoherent : s.engine.content.Coherent)
    (hkept : ∀ n answer, move = .finishLoad n answer → ¬ next.TakenUp n) :
    s.engine.content.Told events next.engine.content := by
  cases h with
  | call hobey =>
    obtain ⟨done, hdone, rfl, rfl⟩ := Engine.obey_eq_some_iff.mp hobey
    exact (Engine.tells_perform hcoherent.mapped hdone).told hsettled
  | expire message => exact s.engine.told_expire message
  | startLoad source hn => exact Engine.told_beginLoad hsettled
  | finishLoad n answer hstage hfinish =>
    obtain ⟨done, v, rfl, rfl, ⟨-, -, rfl⟩ | ⟨-, d, -, -, -, rfl⟩ | ⟨-, error, -, rfl⟩⟩ :=
      Engine.finishLoad_eq_some hfinish
    · have hchecked : s.engine.Tells { s.engine with validator := v } :=
        Engine.tells_of_eq rfl rfl rfl
      exact hchecked.told hsettled
    · refine absurd ⟨d.formId, ?_⟩ (hkept n answer rfl)
      exact List.getElem?_set_self (List.getElem?_eq_some_iff.mp hstage).1
    · have hchecked : s.engine.Tells { s.engine with validator := v } :=
        Engine.tells_of_eq rfl rfl rfl
      exact (hchecked.trans (Engine.tells_failLoad _ error)).told hsettled
  | enter hi hflag =>
    rw [(Engine.acquire_eq_some.mp hflag).2]
    exact Content.told_of_quiet nofun rfl rfl
  | prepare i hstage hbegin => exact s.engine.tells_prepare.told hsettled
  | refuse i hstage hbegin => exact s.engine.tells_prepare.told hsettled
  | @answer i formId payload answer hstage =>
    cases answer with
    | ok response => exact (Engine.tells_accept hcoherent.mapped payload response).told hsettled
    | error error => exact (s.engine.tells_reject error.message).told hsettled
  | _ => exact Content.told_of_quiet nofun rfl rfl

/-- A run in which no form is taken up tells of what it does to the data and to what is shown. -/
theorem Run.told (hrun : Run start trace s) (hsettled : start.engine.Settled)
    (hcoherent : start.engine.content.Coherent) (hkept : s.NoneTakenUp trace) :
    start.engine.content.Told (told trace) s.engine.content := by
  induction hrun with
  | rest => exact Content.told_of_quiet nofun rfl rfl
  | @turn trace s next move events hrun hstep ih =>
    have hbefore : s.NoneTakenUp trace := by
      intro turn hturn n answer hmove
      rw [← hstep.takenUp_iff hrun hturn hmove]
      exact hkept turn (List.mem_append_left _ hturn) n answer hmove
    have hlast : ∀ n answer, move = .finishLoad n answer → ¬ next.TakenUp n :=
      hkept _ (List.mem_append_right _ (List.mem_singleton.mpr rfl))
    rw [told_concat]
    exact (ih hbefore).trans (hstep.told
      (hrun.keeps (fun _ _ _ _ hs h => h.settled hs) hsettled)
      (hrun.keeps (fun _ _ _ _ hs h => h.coherent hs) hcoherent) hlast)

end LiveForm.Session
