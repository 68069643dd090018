import LiveForm.Proofs.Engine.Messages
import LiveForm.Proofs.Session.Drawing
import LiveForm.Proofs.Session.Telling

/-!
# The life of a message

Messages are numbered from one on. A message is shown in place of the one before, and its time
starts; any number of such times run at once, and each may be over at any moment. What goes then is
the message that is shown, if it is the one whose time it was; an older one is gone already, and
nothing happens.

`Session.Speaks` says what one step does to the message and what it tells of it. The numbers that a
run tells are therefore exactly those from one to the number of messages so far
(`Run.shownIds_eq`), and a message whose time was told to be over is never shown again
(`Run.gone`).
-/

namespace LiveForm

namespace FormEvent

/-- The number of the message that an event shows. -/
def shownId? : FormEvent → Option Nat
  | message m => some m.id
  | _ => none

/-- The number of the message that an event tells to be over. -/
def expiredId? : FormEvent → Option Nat
  | messageExpired id => some id
  | _ => none

/-- What is read off events about messages alone is read off these. -/
theorem filterMap_aboutMessage {reads : FormEvent → Option Nat}
    (h : ∀ event, event.aboutMessage = false → reads event = none) (events : List FormEvent) :
    (events.filter aboutMessage).filterMap reads = events.filterMap reads := by
  rw [List.filterMap_filter]
  refine congrArg (events.filterMap ·) (funext fun event => ?_)
  split
  · rfl
  · rename_i hother
    exact (h event (eq_false_of_ne_true hother)).symm

end FormEvent

/-- The numbers of the messages that events show. -/
def shownIds (events : List FormEvent) : List Nat := events.filterMap FormEvent.shownId?

/-- The numbers of the messages that events tell to be over. -/
def expiredIds (events : List FormEvent) : List Nat := events.filterMap FormEvent.expiredId?

theorem shownIds_filter (events : List FormEvent) :
    shownIds (events.filter FormEvent.aboutMessage) = shownIds events := by
  refine FormEvent.filterMap_aboutMessage (fun event hevent => ?_) events
  cases event with
  | message m => cases hevent
  | _ => rfl

theorem expiredIds_filter (events : List FormEvent) :
    expiredIds (events.filter FormEvent.aboutMessage) = expiredIds events := by
  refine FormEvent.filterMap_aboutMessage (fun event hevent => ?_) events
  cases event with
  | messageExpired id => cases hevent
  | _ => rfl

theorem mem_expiredIds {events : List FormEvent} {id : Nat} :
    id ∈ expiredIds events ↔ .messageExpired id ∈ events := by
  constructor
  · intro h
    obtain ⟨event, hevent, hid⟩ := List.mem_filterMap.mp h
    cases event with
    | messageExpired other =>
      cases hid
      exact hevent
    | _ => cases hid
  · exact fun h => List.mem_filterMap.mpr ⟨_, h, rfl⟩

namespace Notice

theorem message_clear (n : Notice) : n.clear.message = none := by
  unfold clear
  split
  · rfl
  · assumption

theorem count_clear (n : Notice) : n.clear.count = n.count := by
  unfold clear
  split <;> rfl

end Notice

namespace Session

/-- What a step does to the message, with the events that tell of it: the message stays, another one
takes its place, its time is over, or the form is there that it said is loaded. -/
inductive Speaks (s : Session) (move : Move) (next : Session) : List FormEvent → Prop
  | silent (hmessage : next.engine.message = s.engine.message)
      (hcount : next.engine.messages = s.engine.messages) : Speaks s move next []
  | shows (text : String) (kind : MessageKind)
      (hmessage : next.engine.message = some ⟨s.engine.messages + 1, text, kind⟩)
      (hcount : next.engine.messages = s.engine.messages + 1) :
      Speaks s move next [.message ⟨s.engine.messages + 1, text, kind⟩]
  | expires (m : StatusMessage) (hmove : move = .expire m.id) (hshown : s.engine.message = some m)
      (hmessage : next.engine.message = none)
      (hcount : next.engine.messages = s.engine.messages) :
      Speaks s move next [.messageExpired m.id]
  | loaded (m : StatusMessage) {n : Nat} {answer : Except TransportError FormDefinition}
      (hmove : move = .finishLoad n answer) (htaken : next.TakenUp n)
      (hshown : s.engine.message = some m) (htext : m.text = Engine.loadingText)
      (hmessage : next.engine.message = none)
      (hcount : next.engine.messages = s.engine.messages) : Speaks s move next []

variable {options : EngineOptions} {timed : Bool} {s next : Session} {move : Move}
  {events : List FormEvent} {trace : List Turn}

/-! ## Steps -/

theorem speaks_of_notice (hnotice : next.engine.notice = s.engine.notice) :
    s.Speaks move next [] :=
  .silent (congrArg Notice.message hnotice) (congrArg Notice.count hnotice)

/-- A change as a whole leaves the message, or shows another one. -/
theorem speaks_of_announces {changed : Engine} (h : s.engine.Announces changed)
    (hsettled : s.engine.Settled) (hnext : next.engine = changed.drain.2) :
    s.Speaks move next (changed.drain.1.filter FormEvent.aboutMessage) := by
  have hnotice : next.engine.notice = changed.notice := by
    rw [hnext, Engine.notice_drain]
  show s.Speaks move next changed.spoken
  rcases h with ⟨hkept, hquiet⟩ | ⟨text, kind, htold, hspoken⟩
  · rw [hquiet, hsettled.spoken]
    exact speaks_of_notice (hnotice.trans hkept)
  · rw [hspoken, hsettled.spoken, List.nil_append]
    rw [htold] at hnotice
    exact .shows text kind (congrArg Notice.message hnotice) (congrArg Notice.count hnotice)

/-- The time of a message that is over takes away this message alone. -/
theorem Step.speaks_expire {id : Nat} (h : Step s (.expire id) events next) :
    s.Speaks (.expire id) next (events.filter FormEvent.aboutMessage) := by
  cases h with
  | expire =>
    have hnotice := s.engine.notice_expire id
    by_cases hcurrent : (s.engine.message.any fun m => m.id == id) = true
    · obtain ⟨m, hshown, hid⟩ := (Option.any_eq_true _ _).mp hcurrent
      obtain rfl : m.id = id := eq_of_beq hid
      rw [if_pos hcurrent] at hnotice
      have htold : (s.engine.expire m.id).1 = [.messageExpired m.id] := by
        simp only [Engine.expire, if_pos hcurrent]
      rw [htold]
      refine .expires m rfl hshown ?_ ?_
      · exact (congrArg Notice.message hnotice).trans (Notice.message_clear _)
      · exact (congrArg Notice.count hnotice).trans (Notice.count_clear _)
    · rw [if_neg hcurrent] at hnotice
      have htold : (s.engine.expire id).1 = [] := by
        simp only [Engine.expire, if_neg hcurrent]
      rw [htold]
      exact speaks_of_notice hnotice

/-- A form that is taken up takes away the message that it is loaded, and no other. -/
theorem speaks_install {e done : Engine} {d : FormDefinition} {n : Nat}
    {answer : Except TransportError FormDefinition} (hdone : e.install d = some done)
    (hnotice : e.notice = s.engine.notice) (hsettled : e.Settled)
    (hnext : next.engine = done.drain.2) (htaken : next.TakenUp n) :
    s.Speaks (.finishLoad n answer) next (done.drain.1.filter FormEvent.aboutMessage) ∧
      ∀ m, next.engine.message = some m → m.text ≠ Engine.loadingText := by
  have hquiet : done.drain.1.filter FormEvent.aboutMessage = [] :=
    (Engine.spoken_install hdone).trans hsettled.spoken
  have hlater : next.engine.notice =
      if s.engine.message.any fun m => m.text == Engine.loadingText then s.engine.notice.clear
      else s.engine.notice := by
    have hmessage : e.message = s.engine.message := congrArg Notice.message hnotice
    rw [hnext, Engine.notice_drain, Engine.notice_install hdone, hmessage, hnotice]
  rw [hquiet]
  by_cases hloading : (s.engine.message.any fun m => m.text == Engine.loadingText) = true
  · obtain ⟨m, hshown, htext⟩ := (Option.any_eq_true _ _).mp hloading
    rw [if_pos hloading] at hlater
    have hmessage : next.engine.message = none :=
      (congrArg Notice.message hlater).trans (Notice.message_clear _)
    have hcount : next.engine.messages = s.engine.messages :=
      (congrArg Notice.count hlater).trans (Notice.count_clear _)
    refine ⟨.loaded m rfl htaken hshown (eq_of_beq htext) hmessage hcount, fun m hm => ?_⟩
    rw [hmessage] at hm
    cases hm
  · rw [if_neg hloading] at hlater
    refine ⟨speaks_of_notice hlater, fun m hm htext => hloading ?_⟩
    have hmessage : s.engine.message = some m := (congrArg Notice.message hlater).symm.trans hm
    exact (Option.any_eq_true _ _).mpr ⟨m, hmessage, beq_iff_eq.mpr htext⟩

theorem Step.speaks_finishLoad {n : Nat} {answer : Except TransportError FormDefinition}
    (h : Step s (.finishLoad n answer) events next) (hsettled : s.engine.Settled) :
    s.Speaks (.finishLoad n answer) next (events.filter FormEvent.aboutMessage) ∧
      (next.TakenUp n → ∀ m, next.engine.message = some m → m.text ≠ Engine.loadingText) := by
  cases h with
  | finishLoad n answer hstage hfinish =>
    have hended (stage : LoadStage) : (s.loads.set n stage)[n]? = some stage :=
      List.getElem?_set_self (List.getElem?_eq_some_iff.mp hstage).1
    obtain ⟨done, v, rfl, rfl,
      ⟨-, rfl, rfl⟩ | ⟨-, d, -, -, hdone, rfl⟩ | ⟨-, error, rfl, rfl⟩⟩ :=
      Engine.finishLoad_eq_some hfinish
    · refine ⟨speaks_of_announces (.inl ⟨rfl, rfl⟩) hsettled rfl, ?_⟩
      -- A load that was overtaken or failed is over without a form, so that none was taken up.
      rintro ⟨formId, htaken⟩
      rw [hended] at htaken
      cases htaken
    · have hchecked : ({ s.engine with validator := v }).Settled := hsettled
      exact And.imp_right (fun hloading _ => hloading)
        (speaks_install hdone rfl hchecked rfl ⟨d.formId, hended _⟩)
    · refine ⟨speaks_of_announces
        (Engine.announces_failLoad { s.engine with validator := v } error) hsettled rfl, ?_⟩
      rintro ⟨formId, htaken⟩
      rw [hended] at htaken
      cases htaken

/-- Every step does one of four things to the message, and tells of it. -/
theorem Step.speaks (h : Step s move events next) (hsettled : s.engine.Settled) :
    s.Speaks move next (events.filter FormEvent.aboutMessage) := by
  cases h with
  | call hobey =>
    obtain ⟨done, hdone, rfl, rfl⟩ := Engine.obey_eq_some_iff.mp hobey
    exact speaks_of_announces (Engine.announces_perform hdone) hsettled rfl
  | expire message => exact Step.speaks_expire (.expire message)
  | startLoad source hn =>
    obtain ⟨started, hstarted, hannounces⟩ := s.engine.announces_beginLoad
    rw [hstarted]
    exact speaks_of_announces hannounces hsettled rfl
  | finishLoad n answer hstage hfinish =>
    exact (Step.speaks_finishLoad (.finishLoad n answer hstage hfinish) hsettled).1
  | enter hi hflag =>
    rw [(Engine.acquire_eq_some.mp hflag).2]
    exact .silent rfl rfl
  | prepare i hstage hbegin =>
    exact speaks_of_announces s.engine.announces_prepare hsettled rfl
  | refuse i hstage hbegin => exact speaks_of_announces s.engine.announces_prepare hsettled rfl
  | @answer i formId payload answer hstage =>
    cases answer with
    | ok response =>
      exact speaks_of_announces (s.engine.announces_accept payload response) hsettled rfl
    | error error =>
      exact speaks_of_announces (s.engine.announces_reject error.message) hsettled rfl
  | _ => exact .silent rfl rfl

/-! ## Runs -/

/-- The numbers of the messages that were shown are those from one to the number of messages. -/
theorem Run.shownIds_eq (hrun : Run (.fresh options timed) trace s) :
    shownIds (Session.told trace) = List.range' 1 s.engine.messages := by
  induction hrun with
  | rest => rfl
  | @turn trace s next move events hrun hstep ih =>
    have hspeaks := hstep.speaks hrun.settled
    rw [told_concat, shownIds, List.filterMap_append]
    show shownIds (Session.told trace) ++ shownIds events = _
    -- `Speaks` is about the events about messages alone, and no other event shows a number.
    rw [ih, ← shownIds_filter events]
    generalize events.filter FormEvent.aboutMessage = said at hspeaks
    cases hspeaks with
    | silent hmessage hcount => rw [hcount]; exact List.append_nil _
    | shows text kind hmessage hcount =>
      rw [hcount, List.range'_1_concat, Nat.add_comm 1]
      rfl
    | expires m hmove hshown hmessage hcount => rw [hcount]; exact List.append_nil _
    | loaded m hmove htaken hshown htext hmessage hcount => rw [hcount]; exact List.append_nil _

/-- What was told to be over was shown before, is not shown any more, and is told once. -/
structure Gone (s : Session) (ended : List Nat) : Prop where
  once : ended.Nodup
  counted : ∀ id ∈ ended, id ≤ s.engine.messages
  replaced : ∀ id ∈ ended, ∀ m, s.engine.message = some m → m.id ≠ id

theorem Gone.step {ended : List Nat} (hs : s.Gone ended) (h : Step s move events next)
    (hsettled : s.engine.Settled) (hle : ∀ m, s.engine.message = some m → m.id ≤ s.engine.messages) :
    next.Gone (ended ++ expiredIds events) := by
  have hspeaks := h.speaks hsettled
  rw [← expiredIds_filter events]
  generalize events.filter FormEvent.aboutMessage = said at hspeaks
  cases hspeaks with
  | silent hmessage hcount =>
    rw [show expiredIds [] = [] from rfl, List.append_nil]
    refine ⟨hs.once, ?_, ?_⟩
    · rw [hcount]
      exact hs.counted
    · rw [hmessage]
      exact hs.replaced
  | shows text kind hmessage hcount =>
    rw [show expiredIds [_] = [] from rfl, List.append_nil]
    refine ⟨hs.once, fun id hid => ?_, fun id hid m hm => ?_⟩
    · have hbefore := hs.counted id hid
      omega
    · -- The message that is shown now is newer than all that were counted before.
      have hbefore := hs.counted id hid
      rw [hmessage] at hm
      cases hm
      exact Nat.ne_of_gt (Nat.lt_succ_of_le hbefore)
  | expires m hmove hshown hmessage hcount =>
    rw [show expiredIds [_] = [m.id] from rfl]
    refine ⟨?_, fun id hid => ?_, ?_⟩
    · refine List.nodup_append.mpr ⟨hs.once, List.pairwise_singleton _ _, ?_⟩
      intro id hid other hother
      rw [List.mem_singleton.mp hother]
      exact (hs.replaced id hid m hshown).symm
    · rw [hcount]
      rcases List.mem_append.mp hid with hbefore | hnow
      · exact hs.counted id hbefore
      · rw [List.mem_singleton.mp hnow]
        exact hle m hshown
    · rw [hmessage]
      exact nofun
  | loaded m hmove htaken hshown htext hmessage hcount =>
    rw [show expiredIds [] = [] from rfl, List.append_nil]
    refine ⟨hs.once, ?_, ?_⟩
    · rw [hcount]
      exact hs.counted
    · rw [hmessage]
      exact nofun

theorem Run.gone (hrun : Run (.fresh options timed) trace s) : s.Gone (expiredIds (Session.told trace)) := by
  induction hrun with
  | rest => exact ⟨List.nodup_nil, nofun, nofun⟩
  | turn hrun hstep ih =>
    rw [told_concat, expiredIds, List.filterMap_append]
    exact ih.step hstep hrun.settled hrun.message_le

/-- Messages are shown with numbers that go up, and each is told to be over at most once. The
message changes in three ways only: another one is shown and told, its own time is over, or the form
is taken up of which it said that it is loaded; such a form never leaves this message behind. Only a
step that finds a message takes it away and tells that it is over; where the time of any other
message is over, nothing happens. -/
theorem Run.message_lives (hrun : Run (.fresh options timed) trace s) :
    (shownIds (Session.told trace)).Pairwise (· < ·) ∧ (expiredIds (Session.told trace)).Nodup ∧
    ∀ move events next, Step s move events next →
      (next.engine.message = s.engine.message ∨
        (∃ m, .message m ∈ events ∧ next.engine.message = some m) ∨
        (∃ m, move = .expire m.id ∧ s.engine.message = some m ∧ next.engine.message = none) ∨
        ∃ m n answer, move = .finishLoad n answer ∧ next.TakenUp n ∧
          s.engine.message = some m ∧ m.text = Engine.loadingText ∧
          next.engine.message = none) ∧
      (∀ id, .messageExpired id ∈ events → move = .expire id ∧
        (∃ m, s.engine.message = some m ∧ m.id = id) ∧ next.engine.message = none) ∧
      (∀ id, move = .expire id → (∀ m, s.engine.message = some m → m.id ≠ id) →
        next.engine.message = s.engine.message ∧ events = []) ∧
      ∀ n answer, move = .finishLoad n answer → next.TakenUp n →
        ∀ m, next.engine.message = some m → m.text ≠ Engine.loadingText := by
  refine ⟨?_, hrun.gone.once, fun move events next hstep => ⟨?_, ?_, ?_, ?_⟩⟩
  · rw [hrun.shownIds_eq]
    exact List.pairwise_lt_range' 1
  · have hmem {event : FormEvent} (h : event ∈ events.filter FormEvent.aboutMessage) :
        event ∈ events := List.mem_of_mem_filter h
    have hspeaks := hstep.speaks hrun.settled
    generalize events.filter FormEvent.aboutMessage = said at hspeaks hmem
    cases hspeaks with
    | silent hmessage hcount => exact .inl hmessage
    | shows text kind hmessage hcount =>
      exact .inr (.inl ⟨_, hmem (List.mem_singleton.mpr rfl), hmessage⟩)
    | expires m hmove hshown hmessage hcount =>
      exact .inr (.inr (.inl ⟨m, hmove, hshown, hmessage⟩))
    | @loaded m n answer hmove htaken hshown htext hmessage hcount =>
      exact .inr (.inr (.inr ⟨m, n, answer, hmove, htaken, hshown, htext, hmessage⟩))
  · intro id hid
    have hsaid : id ∈ expiredIds (events.filter FormEvent.aboutMessage) := by
      rw [expiredIds_filter]
      exact mem_expiredIds.mpr hid
    have hspeaks := hstep.speaks hrun.settled
    generalize events.filter FormEvent.aboutMessage = said at hspeaks hsaid
    cases hspeaks with
    | expires m hmove hshown hmessage hcount =>
      obtain rfl : id = m.id := List.mem_singleton.mp hsaid
      exact ⟨hmove, ⟨m, hshown, rfl⟩, hmessage⟩
    | _ => cases hsaid
  · rintro id rfl hother
    cases hstep with
    | expire =>
      have hgone : ¬ (s.engine.message.any fun m => m.id == id) = true := by
        intro hany
        obtain ⟨m, hshown, hid⟩ := (Option.any_eq_true _ _).mp hany
        exact hother m hshown (eq_of_beq hid)
      simp only [Engine.expire, if_neg hgone, and_self]
  · rintro n answer rfl
    exact (hstep.speaks_finishLoad hrun.settled).2

/-- The time of the first message is over while the second one is shown, and nothing happens. Then
the time of the second one is over. -/
theorem message_lives_noteForm :
    ∃ trace s next, Run (.fresh {} true) trace s ∧
      s.engine.message = some ⟨2, Engine.loadingText, .info⟩ ∧
      Step s (.expire 1) [] next ∧ next.engine.message = some ⟨2, Engine.loadingText, .info⟩ ∧
      expiredIds (Session.told trace) = [] ∧ (shownIds (Session.told trace)).Pairwise (· < ·) ∧
      Step s (.expire 2) [.messageExpired 2] { s with engine := (s.engine.expire 2).2 } ∧
      (s.engine.expire 2).2.message = none := by
  have hrun := ((Run.rest : Run (.fresh {} true) [] _).turn (.startLoad (.id "note") rfl)).turn
    (.startLoad (.id "memo") rfl)
  obtain ⟨hshown, -, hsteps⟩ := hrun.message_lives
  obtain ⟨-, -, hother, -⟩ := hsteps _ _ _ (.expire 1)
  obtain ⟨hkept, hnothing⟩ := hother 1 rfl (by rintro m ⟨⟩; decide)
  obtain ⟨-, hover, -, -⟩ := hsteps _ _ _ (.expire 2)
  obtain ⟨-, -, hcleared⟩ := hover 2 (List.mem_singleton.mpr rfl)
  exact ⟨_, _, _, hrun, rfl, .expire 1, hkept, rfl, hshown, .expire 2, hcleared⟩

end Session

end LiveForm
