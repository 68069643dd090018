import LiveForm.Proofs.Engine.Drawing
import LiveForm.Proofs.Session.Basic

/-!
# A renderer never lags behind

A renderer can be attached at any time. It is handed the view at once, and from then on its outline
is the one of the view and the state as they are, whatever happens: no step leaves something undrawn
that an outline shows.

The messages that it draws are those that were told since it was attached. One that was shown before
is not drawn; as soon as it is gone, or if there was none, the drawn message is the one that is
shown.
-/

namespace LiveForm

namespace Notice

/-- How messages stand to those at an earlier time, when a renderer was attached. The message that
is shown is a newer one, or still the same; it is drawn exactly if it is newer. -/
structure Follows (first n : Notice) : Prop where
  count : first.count ≤ n.count
  message : ∀ m, n.message = some m →
    m.id ≤ n.count ∧ (first.count < m.id ∨ first.message = some m)
  drawn : n.drawn = some (n.message.filter fun m => first.count < m.id)

variable {first n : Notice}

/-- A message that is told is newer, and drawn. -/
theorem Follows.tell (h : first.Follows n) (text : String) (kind : MessageKind) :
    first.Follows (n.tell text kind) := by
  have hnewer : first.count < n.count + 1 := Nat.lt_succ_of_le h.count
  refine ⟨Nat.le_succ_of_le h.count, ?_, ?_⟩
  · rintro m ⟨⟩
    exact ⟨Nat.le_refl _, .inl hnewer⟩
  · rw [Notice.tell, h.drawn, Option.map_some, Option.filter_some, if_pos (decide_eq_true hnewer)]

/-- A message that goes is not drawn any more. -/
theorem Follows.clear (h : first.Follows n) : first.Follows n.clear := by
  unfold Notice.clear
  split
  · rename_i m hm
    refine ⟨h.count, nofun, ?_⟩
    rw [h.drawn, hm, Option.map_some, Option.filter_none, Option.filter_some]
    split <;> simp
  · exact h

end Notice

namespace Session

variable {options : EngineOptions} {timed : Bool} {start s p q next : Session} {move : Move}
  {events told : List FormEvent} {before after trace : List Turn}

/-! ## Outlines -/

/-- No step leaves something undrawn that an outline shows. -/
theorem Step.painted (h : Step s move events next) (hs : s.engine.Painted) :
    next.engine.Painted := by
  cases h with
  | call hobey =>
    obtain ⟨done, hdone, rfl, rfl⟩ := Engine.obey_eq_some_iff.mp hobey
    exact (Engine.painted_perform hs hdone).drain
  | attachRenderer => exact Engine.painted_draw _
  | expire message => exact hs.of_picture (s.engine.picture_expire message)
  | startLoad source hn => exact hs.of_picture s.engine.picture_beginLoad
  | finishLoad n answer hstage hfinish =>
    obtain ⟨done, v, rfl, rfl, ⟨-, -, rfl⟩ | ⟨-, d, -, -, hdone, -⟩ | ⟨-, error, -, rfl⟩⟩ :=
      Engine.finishLoad_eq_some hfinish
    · exact Engine.Painted.drain (e := { s.engine with validator := v }) hs
    · exact (Engine.painted_install hdone).drain
    · exact (hs.of_picture (Engine.picture_failLoad { s.engine with validator := v } error)).drain
  | enter hi hflag =>
    rw [(Engine.acquire_eq_some.mp hflag).2]
    exact hs
  | prepare i hstage hbegin => exact (Engine.painted_prepare hs).drain
  | refuse i hstage hbegin => exact (Engine.painted_prepare hs).drain
  | @answer i formId payload answer hstage =>
    cases answer with
    | ok response => exact (Engine.painted_accept hs payload response).drain
    | error error => exact (hs.of_picture (s.engine.picture_reject error.message)).drain
  | _ => exact hs

/-! ## Messages -/

/-- What a step does to the message: nothing, or one is told, or the one that is shown goes. A
renderer that is attached has none. -/
theorem Step.notice_cases (h : Step s move events next) :
    next.engine.notice = s.engine.notice ∨
    (∃ text kind, next.engine.notice = s.engine.notice.tell text kind) ∨
    next.engine.notice = s.engine.notice.clear ∨
    move = .attachRenderer ∧ next.engine.notice = { s.engine.notice with drawn := some none } := by
  cases h with
  | call hobey =>
    obtain ⟨done, hdone, rfl, rfl⟩ := Engine.obey_eq_some_iff.mp hobey
    exact .inl ((Engine.notice_drain done).trans (Engine.notice_perform hdone))
  | attachRenderer => exact .inr (.inr (.inr ⟨rfl, rfl⟩))
  | expire message =>
    rw [Engine.notice_expire]
    split
    · exact .inr (.inr (.inl rfl))
    · exact .inl rfl
  | startLoad source hn =>
    rw [Engine.notice_beginLoad]
    split
    · exact .inr (.inl ⟨_, _, rfl⟩)
    · exact .inl rfl
  | finishLoad n answer hstage hfinish =>
    obtain ⟨done, v, rfl, rfl, ⟨-, -, rfl⟩ | ⟨-, d, -, -, hdone, -⟩ | ⟨-, error, -, rfl⟩⟩ :=
      Engine.finishLoad_eq_some hfinish
    · exact .inl rfl
    · have hnotice := Engine.notice_install hdone
      split at hnotice
      · exact .inr (.inr (.inl hnotice))
      · exact .inl hnotice
    · exact .inr (.inl ⟨_, _, Engine.notice_failLoad { s.engine with validator := v } error⟩)
  | enter hi hflag =>
    rw [(Engine.acquire_eq_some.mp hflag).2]
    exact .inl rfl
  | prepare i hstage hbegin =>
    rcases s.engine.notice_prepare with heq | heq
    · exact .inl heq
    · exact .inr (.inl ⟨_, _, heq⟩)
  | refuse i hstage hbegin =>
    rcases s.engine.notice_prepare with heq | heq
    · exact .inl heq
    · exact .inr (.inl ⟨_, _, heq⟩)
  | @answer i formId payload answer hstage =>
    cases answer with
    | ok response => exact .inr (.inl ⟨_, _, s.engine.notice_accept payload response⟩)
    | error error => exact .inr (.inl ⟨_, _, s.engine.notice_reject error.message⟩)
  | _ => exact .inl rfl

/-- The message that is shown was counted. -/
theorem Step.message_le (h : Step s move events next)
    (hs : ∀ m, s.engine.message = some m → m.id ≤ s.engine.messages) :
    ∀ m, next.engine.message = some m → m.id ≤ next.engine.messages := by
  show ∀ m, next.engine.notice.message = some m → m.id ≤ next.engine.notice.count
  rcases h.notice_cases with heq | ⟨text, kind, heq⟩ | heq | ⟨-, heq⟩
  · rw [heq]
    exact hs
  · rw [heq]
    rintro m ⟨⟩
    exact Nat.le_refl _
  · rw [heq, Notice.clear]
    split
    · exact nofun
    · exact hs
  · rw [heq]
    exact hs

theorem Run.message_le (hrun : Run (.fresh options timed) trace s) :
    ∀ m, s.engine.message = some m → m.id ≤ s.engine.messages :=
  hrun.keeps (fun _ _ _ _ hs h => h.message_le hs) nofun

end Session

end LiveForm
