import LiveForm.Proofs.Session.Flag
import LiveForm.Proofs.Session.Payload
import LiveForm.Store.Service
import Mathlib.Data.List.Forall2

/-!
# An engine that a store serves

A `Served` session has a store as its transport, and nobody else writes to the store. The store is
asked when a submission is sent, and answers at once, so that a submission is never dropped between
the two; whatever else happens meanwhile, the answer is the one that the store gave.

A submission that is accepted is recorded by the store when it is sent, and told by the engine when
it is answered. Both are one step apart, and only one submission has the flag, so that at most one
record is ahead of what is told (`Served.Ledger`). But for that one, the records of a run are, in
order, the submissions that were accepted (`Served.Run.exactly_once`).
-/

namespace LiveForm

namespace SubmitStage

/-- The submission was not given to the transport, and may still be. -/
def unsent : SubmitStage → Bool
  | entered | prepared _ _ => true
  | sent _ _ | finished _ | ended _ | dropped => false

/-- The answer with which the submission was accepted. -/
def response? : SubmitStage → Option SubmitResponse
  | finished (.submitted response) | ended (.submitted response) => some response
  | _ => none

end SubmitStage

/-- A submission that does not get as far as the transport is not accepted. -/
theorem Engine.not_submitted_of_error {e : Engine} {outcome : SubmitOutcome}
    (h : e.beginSubmit.1 = .error outcome) (response : SubmitResponse) :
    outcome ≠ .submitted response := by
  rintro rfl
  have hprepare : e.prepare.1 = .error (.submitted response) := h
  by_cases hready : e.status.isReady = true
  · cases hd : e.definition with
    | none =>
      rw [prepare_notReady (.inl hd)] at hprepare
      cases hprepare
    | some d =>
      by_cases hvalid : e.writeErrors.1.isEmpty = true
      · rw [prepare_eq hd hready hvalid] at hprepare
        cases hprepare
      · rw [prepare_invalid hd hready hvalid] at hprepare
        cases hprepare
  · rw [prepare_notReady (.inr hready)] at hprepare
    cases hprepare

/-! ## What was answered -/

namespace Session

namespace Move

/-- The move completes a submission that was accepted. -/
def accepts : Move → Bool
  | answer _ (.ok _) => true
  | _ => false

/-- The answer with which a move completes a submission that was accepted. -/
def responseTo? (i : Nat) : Move → Option SubmitResponse
  | answer j (.ok response) => if j = i then some response else none
  | _ => none

theorem responseTo?_of_ne {move : Move} {i : Nat} (h : move.submit? ≠ some i) :
    move.responseTo? i = none := by
  unfold responseTo?
  split
  · rw [if_neg fun heq => h (congrArg some heq)]
  · rfl

/-- The transport has no part in the move. -/
def isInner : Move → Bool
  | finishLoad _ _ | send _ _ _ | answer _ _ | drop _ => false
  | _ => true

end Move

variable {options : EngineOptions} {timed : Bool} {start s next : Session} {move : Move}
  {events : List FormEvent} {trace : List Turn} {i j : Nat} {formId : String} {payload : Payload}

/-- The turns in which submissions were accepted. -/
def acceptances (trace : List Turn) : List Turn := trace.filter fun turn => turn.move.accepts

theorem acceptances_append (trace later : List Turn) :
    acceptances (trace ++ later) = acceptances trace ++ acceptances later :=
  List.filter_append ..

/-- A move that accepts nothing adds nothing to what was accepted. -/
theorem acceptances_concat_of_not (hmove : move.accepts = false) :
    acceptances (trace ++ [⟨move, events⟩]) = acceptances trace := by
  have hlast : acceptances [⟨move, events⟩] = [] := List.filter_cons_of_neg (by rw [hmove]; decide)
  rw [acceptances_append, hlast, List.append_nil]

/-- The answers with which a submission was accepted. -/
def responses (trace : List Turn) (i : Nat) : List SubmitResponse :=
  trace.filterMap fun turn => turn.move.responseTo? i

theorem responses_concat (turn : Turn) :
    responses (trace ++ [turn]) i = responses trace i ++ (turn.move.responseTo? i).toList := by
  rw [responses, List.filterMap_append, List.filterMap_cons, List.filterMap_nil]
  cases turn.move.responseTo? i <;> rfl

/-- A submission that was not dropped was accepted once if that is its outcome, and never
otherwise. -/
theorem Run.responses_eq (hrun : Run (.fresh options timed) trace s)
    (hs : s.submits[i]? ≠ some .dropped) :
    responses trace i = (s.submits[i]?.bind SubmitStage.response?).toList := by
  induction hrun with
  | rest => rfl
  | @turn trace s next move events hrun hstep ih =>
    rw [responses_concat]
    by_cases hi : move.submit? = some i
    · obtain ⟨stage, hstage, hbecomes⟩ := hstep.becomes hi
      rw [hstage]
      generalize s.submits[i]? = before at hbecomes ih
      cases hbecomes with
      | @refuse outcome hbegin =>
        rw [ih nofun]
        cases outcome with
        | submitted response => exact absurd rfl (Engine.not_submitted_of_error hbegin response)
        | _ => rfl
      | answer answer =>
        rw [ih nofun]
        cases answer with
        | ok response => simp only [Move.responseTo?, if_true]; rfl
        | error error => rfl
      | @leave outcome =>
        rw [ih nofun]
        cases outcome <;> rfl
      | drop hholds => exact absurd hstage hs
      | _ =>
        rw [ih nofun]
        rfl
    · rw [hstep.submits_eq hi] at hs ⊢
      rw [ih hs, Move.responseTo?_of_ne hi]
      exact List.append_nil _

/-! ## What was sent -/

/-- A submission that waits for its answer waited before, or was sent just now. -/
theorem Step.sent_before (h : Step s move events next)
    (hnext : next.submits[i]? = some (.sent formId payload)) :
    s.submits[i]? = some (.sent formId payload) ∨ move = .send i formId payload := by
  by_cases hi : move.submit? = some i
  · obtain ⟨stage, hstage, hbecomes⟩ := h.becomes hi
    rw [hnext] at hstage
    cases hstage
    generalize s.submits[i]? = before at hbecomes
    cases hbecomes with
    | send => exact .inr rfl
  · rw [h.submits_eq hi] at hnext
    exact .inl hnext

/-- A submission goes on waiting until it is answered or dropped. -/
theorem Step.sent_after (h : Step s move events next)
    (hs : s.submits[i]? = some (.sent formId payload)) :
    next.submits[i]? = some (.sent formId payload) ∨ (∃ answer, move = .answer i answer) ∨
      move = .drop i := by
  by_cases hi : move.submit? = some i
  · obtain ⟨stage, -, hbecomes⟩ := h.becomes hi
    rw [hs] at hbecomes
    cases hbecomes with
    | answer answer => exact .inr (.inl ⟨answer, rfl⟩)
    | drop hholds => exact .inr (.inr rfl)
  · exact .inl ((h.submits_eq hi).trans hs)

/-- What was given to the transport is not given to it again. -/
theorem Step.not_unsent (h : Step s move events next) {stage : SubmitStage}
    (hs : s.submits[i]? = some stage) (hstage : stage.unsent = false) :
    ∃ later, next.submits[i]? = some later ∧ later.unsent = false := by
  by_cases hi : move.submit? = some i
  · obtain ⟨later, hlater, hbecomes⟩ := h.becomes hi
    refine ⟨later, hlater, ?_⟩
    rw [hs] at hbecomes
    cases hbecomes with
    | prepare hbegin => cases hstage
    | refuse hbegin => cases hstage
    | send => rfl
    | answer answer => rfl
    | leave => rfl
    | drop hholds => rfl
  · exact ⟨stage, (h.submits_eq hi).trans hs, hstage⟩

/-- A submission that waits was sent with what it waits with. -/
theorem Run.send_mem (hrun : Run (.fresh options timed) trace s)
    (hs : s.submits[i]? = some (.sent formId payload)) :
    ∃ told, ⟨.send i formId payload, told⟩ ∈ trace := by
  induction hrun with
  | rest => cases hs
  | @turn trace s next move events hrun hstep ih =>
    rcases hstep.sent_before hs with hbefore | rfl
    · obtain ⟨told, hmem⟩ := ih hbefore
      exact ⟨told, List.mem_append_left _ hmem⟩
    · exact ⟨events, List.mem_append_right _ (List.mem_singleton.mpr rfl)⟩

end Session

/-! ## Listings -/

/-- A listing has the first submissions of a form, one page of them, and no others. -/
theorem Store.listing_spec (s : Store) (k : String) :
    s.listing k <+: (s.submissions.filter fun x => x.formId == k) ∧
      (s.listing k).length = min 100 (s.submissions.filter fun x => x.formId == k).length ∧
      ∀ x ∈ s.listing k, x.formId = k := by
  refine ⟨List.take_prefix _ _, List.length_take, ?_⟩
  intro x hx
  exact eq_of_beq (List.mem_filter.mp (List.mem_of_mem_take hx)).2

/-! ## Sessions that are served -/

/-- A session with the store that is its transport. `replies` is what the store answered to the
submissions that were sent, by their places. -/
structure Served where
  session : Session
  store : Store
  replies : List (Nat × Except TransportError SubmitResponse) := []

namespace Served

open Session (Move Turn acceptances acceptances_append acceptances_concat_of_not)

/-- What a move does. A submission that is sent has its reply from the store in the same step. Its
answer is that reply, and what arrives for a load by identifier is what the store has. -/
inductive Step (v : Served) : Move → List FormEvent → Served → Prop
  | inner {move : Move} {events : List FormEvent} {s : Session} (hmove : move.isInner = true)
      (h : v.session.Step move events s) : Step v move events { v with session := s }
  | finishLoad {n : Nat} {answer : Except TransportError FormDefinition}
      {events : List FormEvent} {s : Session}
      (hanswer : ∀ number formId, v.session.loads[n]? = some (.fetching number (.id formId)) →
        answer = v.store.fetchDefinition formId)
      (h : v.session.Step (.finishLoad n answer) events s) :
      Step v (.finishLoad n answer) events { v with session := s }
  | send {i : Nat} {formId : String} {payload : Payload} {events : List FormEvent} {s : Session}
      (stamp : Stamp) (h : v.session.Step (.send i formId payload) events s) :
      Step v (.send i formId payload) events
        { session := s
          store := (v.store.acceptPayload formId payload stamp).2
          replies := v.replies ++ [(i, (v.store.acceptPayload formId payload stamp).1)] }
  | answer {i : Nat} {reply : Except TransportError SubmitResponse} {events : List FormEvent}
      {s : Session} (hreply : (i, reply) ∈ v.replies)
      (h : v.session.Step (.answer i reply) events s) :
      Step v (.answer i reply) events { v with session := s }
  | drop {i : Nat} {stage : SubmitStage} {events : List FormEvent} {s : Session}
      (hstage : v.session.submits[i]? = some stage) (hunsent : stage.unsent = true)
      (h : v.session.Step (.drop i) events s) : Step v (.drop i) events { v with session := s }

/-- A served session comes from a start by turns, the first one first. -/
inductive Run (start : Served) : List Turn → Served → Prop
  | rest : Run start [] start
  | turn {trace : List Turn} {v next : Served} {move : Move} {events : List FormEvent}
      (hrun : Run start trace v) (hstep : Step v move events next) :
      Run start (trace ++ [⟨move, events⟩]) next

variable {options : EngineOptions} {timed : Bool} {store : Store} {v next : Served} {move : Move}
  {events : List FormEvent} {trace : List Turn}

theorem Step.session (h : v.Step move events next) :
    v.session.Step move events next.session := by
  cases h with
  | inner hmove h => exact h
  | finishLoad hanswer h => exact h
  | send stamp h => exact h
  | answer hreply h => exact h
  | drop hstage hunsent h => exact h

theorem Run.session {start : Served} (h : start.Run trace v) :
    Session.Run start.session trace v.session := by
  induction h with
  | rest => exact .rest
  | turn hrun hstep ih => exact ih.turn hstep.session

/-- How the store answers a submission: it records the data, or does not have the form. -/
theorem acceptPayload_cases (s : Store) (formId : String) (payload : Payload) (stamp : Stamp) :
    s.acceptPayload formId payload stamp =
        (.ok (Submission.receipt ⟨stamp, formId, payload.data⟩),
          { s with submissions := s.submissions ++ [⟨stamp, formId, payload.data⟩] }) ∨
      ∃ error, s.acceptPayload formId payload stamp = (.error error, s) := by
  unfold Store.acceptPayload Store.submit
  cases s.form? formId with
  | none => exact .inr ⟨_, rfl⟩
  | some d => exact .inl rfl

/-! ## The record that is ahead -/

/-- What the store recorded for the submission that waits for its answer, and what it replied. -/
structure Ledger (v : Served) (ahead : Option Submission) : Prop where
  asked : ∀ i reply, (i, reply) ∈ v.replies →
    ∃ stage, v.session.submits[i]? = some stage ∧ stage.unsent = false
  reply : ∀ i formId payload reply, v.session.submits[i]? = some (.sent formId payload) →
    (i, reply) ∈ v.replies →
      (∃ x : Submission, ahead = some x ∧ x.formId = formId ∧ x.data = payload.data ∧
        reply = .ok x.receipt) ∨ ahead = none ∧ ∃ error, reply = .error error
  waits : ∀ x, ahead = some x → ∃ i : Nat, v.session.submits[i]? = some (.sent x.formId ⟨x.data⟩)

/-- A turn in which a submission was accepted, and its record: the form and the data that were sent,
the identifier that was answered, and the data that were told. -/
def Records (trace : List Turn) (turn : Turn) (x : Submission) : Prop :=
  ∃ i response told, turn.move = .answer i (.ok response) ∧
    ⟨.send i x.formId ⟨x.data⟩, told⟩ ∈ trace ∧ response.submissionId = some x.stamp.id ∧
    turn.events.filter Engine.isSubmitted = [.formSubmitted x.data response.toJson]

theorem Records.mono {turn : Turn} {x : Submission} (h : Records trace turn x) {more : List Turn}
    (hsub : trace ⊆ more) : Records more turn x := by
  obtain ⟨i, response, told, hmove, hsent, hid, hevents⟩ := h
  exact ⟨i, response, told, hmove, hsub hsent, hid, hevents⟩

variable {ahead : Option Submission}

theorem ledger_start (session : Session) (hsession : session.submits = []) :
    ({ session := session, store := store } : Served).Ledger none where
  asked := nofun
  reply := by
    intro i formId payload reply hsent
    rw [hsession] at hsent
    cases hsent
  waits := nofun

/-- A move keeps the ledger if the same submissions wait after it. -/
theorem Ledger.keep (h : v.Ledger ahead) {s : Session} (hstep : v.session.Step move events s)
    (hsame : ∀ (i : Nat) (formId : String) (payload : Payload),
      s.submits[i]? = some (.sent formId payload) ↔
        v.session.submits[i]? = some (.sent formId payload)) :
    ({ v with session := s } : Served).Ledger ahead where
  asked := by
    intro i reply hreply
    obtain ⟨stage, hstage, hasked⟩ := h.asked i reply hreply
    exact hstep.not_unsent hstage hasked
  reply := by
    intro i formId payload reply hsent hreply
    exact h.reply i formId payload reply ((hsame i formId payload).mp hsent) hreply
  waits := by
    intro x hx
    obtain ⟨i, hsent⟩ := h.waits x hx
    exact ⟨i, (hsame i _ _).mpr hsent⟩

/-- The same submissions wait after a move that neither sends nor answers one, nor drops one that
waits. -/
theorem sent_iff {s : Session} (hstep : v.session.Step move events s)
    (hsend : ∀ i formId payload, move ≠ .send i formId payload)
    (hanswer : ∀ i answer, move ≠ .answer i answer)
    (hdrop : ∀ i, move = .drop i →
      ∃ stage, v.session.submits[i]? = some stage ∧ stage.unsent = true)
    (i : Nat) (formId : String) (payload : Payload) :
    s.submits[i]? = some (.sent formId payload) ↔
      v.session.submits[i]? = some (.sent formId payload) := by
  constructor
  · intro hsent
    exact (hstep.sent_before hsent).resolve_right (hsend i formId payload)
  · intro hsent
    rcases hstep.sent_after hsent with hafter | ⟨answer, rfl⟩ | rfl
    · exact hafter
    · exact absurd rfl (hanswer i answer)
    · obtain ⟨stage, hstage, hunsent⟩ := hdrop i rfl
      rw [hsent] at hstage
      cases hstage
      cases hunsent

/-- While a submission has the flag, no other one waits. -/
theorem eq_of_sent {s : Session} (hs : s.Flagged) {i j : Nat} (hi : s.Holds i) {formId : String}
    {payload : Payload} (hj : s.submits[j]? = some (.sent formId payload)) : j = i :=
  hs.single j i ⟨_, hj, rfl⟩ hi

/-- While a submission is about to be sent, no submission waits, it has no reply yet, and nothing is
ahead. -/
theorem Ledger.prepared (h : v.Ledger ahead) (hflagged : v.session.Flagged) {i : Nat}
    {formId : String} {payload : Payload}
    (hi : v.session.submits[i]? = some (.prepared formId payload)) :
    (∀ (j : Nat) (formId' : String) (payload' : Payload),
      v.session.submits[j]? ≠ some (.sent formId' payload')) ∧
    (∀ reply, (i, reply) ∉ v.replies) ∧ ahead = none := by
  have hnone : ∀ (j : Nat) (formId' : String) (payload' : Payload),
      v.session.submits[j]? ≠ some (.sent formId' payload') := by
    intro j formId' payload' hj
    rw [eq_of_sent hflagged ⟨_, hi, rfl⟩ hj, hi] at hj
    cases hj
  refine ⟨hnone, ?_, ?_⟩
  · intro reply hreply
    obtain ⟨stage, hstage, hasked⟩ := h.asked i reply hreply
    rw [hi] at hstage
    cases hstage
    cases hasked
  · by_contra hahead
    obtain ⟨x, hx⟩ := Option.ne_none_iff_exists'.mp hahead
    obtain ⟨j, hj⟩ := h.waits x hx
    exact hnone j _ _ hj

/-- Nothing is ahead when a submission is sent. What the store records for it then is. -/
theorem Ledger.send (h : v.Ledger ahead) (hflagged : v.session.Flagged) {i : Nat}
    {formId : String} {payload : Payload} {s : Session}
    (hstep : v.session.Step (.send i formId payload) events s) (stamp : Stamp) :
    ahead = none ∧ ∃ recorded : Option Submission,
      (v.store.acceptPayload formId payload stamp).2 =
        { v.store with submissions := v.store.submissions ++ recorded.toList } ∧
      ({ session := s, store := (v.store.acceptPayload formId payload stamp).2,
         replies := v.replies ++ [(i, (v.store.acceptPayload formId payload stamp).1)] } :
        Served).Ledger recorded := by
  obtain ⟨hprepared, hsent⟩ : v.session.submits[i]? = some (.prepared formId payload) ∧
      s.submits[i]? = some (.sent formId payload) := by
    cases hstep with
    | send _ hstage =>
      exact ⟨hstage, List.getElem?_set_self (List.getElem?_eq_some_iff.mp hstage).1⟩
  obtain ⟨hnone, hnew, hahead⟩ := h.prepared hflagged hprepared
  have hasked {replies : List (Nat × Except TransportError SubmitResponse)}
      {last : Except TransportError SubmitResponse} (hreplies : replies = v.replies ++ [(i, last)]) :
      ∀ j reply, (j, reply) ∈ replies →
        ∃ stage, s.submits[j]? = some stage ∧ stage.unsent = false := by
    intro j reply hreply
    rw [hreplies] at hreply
    rcases List.mem_append.mp hreply with hold | hlast
    · obtain ⟨stage, hstage, hasked⟩ := h.asked j reply hold
      exact hstep.not_unsent hstage hasked
    · cases List.mem_singleton.mp hlast
      exact ⟨_, hsent, rfl⟩
  -- Only the submission that was sent waits, and it has no reply but the last one.
  have honly {last : Except TransportError SubmitResponse} {j : Nat} {formId' : String}
      {payload' : Payload} {reply : Except TransportError SubmitResponse}
      (hj : s.submits[j]? = some (.sent formId' payload'))
      (hreply : (j, reply) ∈ v.replies ++ [(i, last)]) :
      formId' = formId ∧ payload' = payload ∧ reply = last := by
    rcases hstep.sent_before hj with hbefore | hmove
    · exact absurd hbefore (hnone j formId' payload')
    · cases hmove
      rcases List.mem_append.mp hreply with hold | hlast
      · exact absurd hold (hnew reply)
      · cases List.mem_singleton.mp hlast
        exact ⟨rfl, rfl, rfl⟩
  refine ⟨hahead, ?_⟩
  rcases acceptPayload_cases v.store formId payload stamp with heq | ⟨error, heq⟩
  · rw [heq]
    refine ⟨some ⟨stamp, formId, payload.data⟩, rfl, hasked rfl, ?_, ?_⟩
    · intro j formId' payload' reply hj hreply
      obtain ⟨rfl, rfl, rfl⟩ := honly hj hreply
      exact .inl ⟨_, rfl, rfl, rfl, rfl⟩
    · rintro x ⟨⟩
      exact ⟨i, hsent⟩
  · rw [heq]
    refine ⟨none, by rw [Option.toList_none, List.append_nil], hasked rfl, ?_, nofun⟩
    intro j formId' payload' reply hj hreply
    obtain ⟨rfl, rfl, rfl⟩ := honly hj hreply
    exact .inr ⟨rfl, error, rfl⟩

/-- Nothing is ahead after an answer. What was ahead is the record of the submission that was
accepted. -/
theorem Ledger.answer (h : v.Ledger ahead) (hflagged : v.session.Flagged) {i : Nat}
    {reply : Except TransportError SubmitResponse} (hreply : (i, reply) ∈ v.replies) {s : Session}
    (hstep : v.session.Step (.answer i reply) events s) :
    ({ v with session := s } : Served).Ledger none ∧
      ((∃ x : Submission, ahead = some x ∧ reply = .ok x.receipt ∧
          v.session.submits[i]? = some (.sent x.formId ⟨x.data⟩)) ∨
        ahead = none ∧ ∃ error, reply = .error error) := by
  obtain ⟨formId, payload, outcome, hsent, hfinished⟩ : ∃ formId payload outcome,
      v.session.submits[i]? = some (.sent formId payload) ∧
      s.submits[i]? = some (.finished outcome) := by
    cases hstep with
    | answer _ _ hstage =>
      exact ⟨_, _, _, hstage, List.getElem?_set_self (List.getElem?_eq_some_iff.mp hstage).1⟩
  constructor
  · refine ⟨?_, ?_, nofun⟩
    · intro j reply' hreply'
      obtain ⟨stage, hstage, hasked⟩ := h.asked j reply' hreply'
      exact hstep.not_unsent hstage hasked
    · -- The one that waited does not any more.
      intro j formId' payload' reply' hj
      rcases hstep.sent_before hj with hbefore | hmove
      · rw [eq_of_sent hflagged ⟨_, hsent, rfl⟩ hbefore, hfinished] at hj
        cases hj
      · cases hmove
  · rcases h.reply i formId payload reply hsent hreply with ⟨x, hx, rfl, hdata, hok⟩ | hrefused
    · refine .inl ⟨x, hx, hok, ?_⟩
      rw [hsent, hdata]
    · exact .inr hrefused

/-! ## Exactly once -/

/-- The forms of the store stay, and its records are those of the submissions that were accepted, in
order, but for one that may be ahead. -/
theorem Run.ledger (hrun : Run ⟨.fresh options timed, store, []⟩ trace v) :
    ∃ (done : List Submission) (ahead : Option Submission),
      v.store = { store with submissions := store.submissions ++ done ++ ahead.toList } ∧
      v.Ledger ahead ∧
      List.Forall₂ (Records trace) (acceptances trace) done := by
  induction hrun with
  | rest =>
    refine ⟨[], none, ?_, ledger_start _ rfl, .nil⟩
    rw [Option.toList_none, List.append_nil, List.append_nil]
  | @turn trace v next move events hrun hstep ih =>
    obtain ⟨done, ahead, hstore, hledger, hdone⟩ := ih
    have hflagged := hrun.session.flagged
    have hsub : trace ⊆ trace ++ [(⟨move, events⟩ : Turn)] := List.subset_append_left _ _
    have hkept : List.Forall₂ (Records (trace ++ [⟨move, events⟩]))
        (acceptances trace) done :=
      hdone.imp fun _ _ h => h.mono hsub
    cases hstep with
    | inner hmove h =>
      have haccepts : move.accepts = false := by
        cases move <;> first | rfl | cases hmove
      have hsame := sent_iff h (by rintro i formId payload rfl; cases hmove)
        (by rintro i answer rfl; cases hmove) (by rintro i rfl; cases hmove)
      rw [acceptances_concat_of_not haccepts]
      exact ⟨done, ahead, hstore, hledger.keep h hsame, hkept⟩
    | finishLoad hanswer h =>
      have hsame := sent_iff h nofun nofun nofun
      rw [acceptances_concat_of_not rfl]
      exact ⟨done, ahead, hstore, hledger.keep h hsame, hkept⟩
    | drop hstage hunsent h =>
      have hsame := sent_iff h nofun nofun (by rintro i ⟨⟩; exact ⟨_, hstage, hunsent⟩)
      rw [acceptances_concat_of_not rfl]
      exact ⟨done, ahead, hstore, hledger.keep h hsame, hkept⟩
    | @send i formId payload _ s stamp h =>
      obtain ⟨rfl, recorded, hrecord, hnext⟩ := hledger.send hflagged h stamp
      rw [acceptances_concat_of_not rfl]
      refine ⟨done, recorded, ?_, hnext, hkept⟩
      rw [Option.toList_none, List.append_nil] at hstore
      rw [hrecord, hstore]
    | @answer i reply _ s hreply h =>
      -- What was ahead is told now, or nothing was.
      obtain ⟨hnext, ⟨x, rfl, rfl, hsent⟩ | ⟨rfl, error, rfl⟩⟩ := hledger.answer hflagged hreply h
      · obtain ⟨told, hmem⟩ := hrun.session.send_mem hsent
        have hevents := h.submitted_answer hrun.session.settled (.inr hsent)
        have hrecords : Records (trace ++ [⟨.answer i (.ok x.receipt), events⟩])
            ⟨.answer i (.ok x.receipt), events⟩ x :=
          ⟨i, x.receipt, told, rfl, hsub hmem, rfl, hevents⟩
        refine ⟨done ++ [x], none, ?_, hnext, ?_⟩
        · rw [Option.toList_none, List.append_nil, ← List.append_assoc]
          exact hstore
        · rw [acceptances_append]
          exact List.rel_append hkept (.cons hrecords .nil)
      · rw [acceptances_concat_of_not rfl]
        exact ⟨done, none, hstore, hnext, hkept⟩

/-- The forms of the store stay as they are. What a run adds to its submissions is, in order, one
record for each submission that was accepted, with its form, the data that were told and the
identifier that was answered, and perhaps one more for the submission that waits for its answer. A
submission that has ended was accepted once if that is its outcome, and never otherwise. A listing
has the first hundred submissions of its form, in order, and none of another one. -/
theorem Run.exactly_once (hrun : Run ⟨.fresh options timed, store, []⟩ trace v) :
    v.store.forms = store.forms ∧
    (∃ (done : List Submission) (ahead : Option Submission),
      v.store.submissions = store.submissions ++ done ++ ahead.toList ∧
      List.Forall₂ (Records trace) (acceptances trace) done ∧
      ∀ x, ahead = some x → ∃ i : Nat, v.session.submits[i]? = some (.sent x.formId ⟨x.data⟩)) ∧
    (∀ (i : Nat) outcome, v.session.submits[i]? = some (.ended outcome) →
      Session.responses trace i =
        match outcome with
        | .submitted response => [response]
        | _ => []) ∧
    ∀ k, v.store.listing k <+: (v.store.submissions.filter fun x => x.formId == k) ∧
      (v.store.listing k).length =
        min 100 (v.store.submissions.filter fun x => x.formId == k).length ∧
      ∀ x ∈ v.store.listing k, x.formId = k := by
  obtain ⟨done, ahead, hstore, hledger, hdone⟩ := hrun.ledger
  refine ⟨by rw [hstore], ⟨done, ahead, by rw [hstore], hdone, hledger.waits⟩, ?_,
    fun k => v.store.listing_spec k⟩
  intro i outcome hended
  have hresponses := hrun.session.responses_eq (i := i) (by rw [hended]; exact nofun)
  rw [hresponses, hended]
  cases outcome <;> rfl

/-- A store with the note form. -/
def noteStore : Store := (({} : Store).put "note" Session.noteForm).2

/-- The note form is loaded from the store and submitted to it. -/
theorem exists_submitted :
    ∃ trace v, Run ⟨.fresh {} true, noteStore, []⟩ trace v ∧
      v.session.submits = [.ended (.submitted
        (Submission.receipt ⟨⟨"first", "today"⟩, "note", .obj []⟩))] ∧
      v.store.submissions = [⟨⟨"first", "today"⟩, "note", .obj []⟩] := by
  have hstarted := (Run.rest : Run ⟨.fresh {} true, noteStore, []⟩ [] _).turn
    (.inner rfl (.startLoad (.id "note") rfl))
  have hloaded := hstarted.turn
    (.finishLoad (by rintro number formId ⟨⟩; rfl)
      (.finishLoad 0 (noteStore.fetchDefinition "note") rfl rfl))
  have hsent := ((hloaded.turn (.inner rfl (.enter rfl rfl))).turn
    (.inner rfl (.prepare 0 rfl rfl))).turn (.send ⟨"first", "today"⟩ (.send 0 rfl))
  have hended := (hsent.turn (.answer List.mem_cons_self (.answer 0 _ rfl))).turn
    (.inner rfl (.leave 0 rfl))
  exact ⟨_, _, hended, rfl, rfl⟩

/-- A submission of the note form is recorded once, and listed. -/
theorem exactly_once_noteForm :
    ∃ trace v, Run ⟨.fresh {} true, noteStore, []⟩ trace v ∧
      Session.responses trace 0 =
        [Submission.receipt ⟨⟨"first", "today"⟩, "note", .obj []⟩] ∧
      (∃ done, v.store.submissions = done ∧ List.Forall₂ (Records trace) (acceptances trace) done) ∧
      (v.store.listing "note").length = 1 := by
  obtain ⟨trace, v, hrun, hended, hstore⟩ := exists_submitted
  obtain ⟨-, ⟨done, ahead, hsubmissions, hdone, hahead⟩, honce, hlisting⟩ := hrun.exactly_once
  have hnone : ahead = none := by
    cases ahead with
    | none => rfl
    | some x =>
      obtain ⟨i, hi⟩ := hahead x rfl
      rw [hended] at hi
      cases i <;> cases hi
  subst hnone
  refine ⟨trace, v, hrun, ?_, ⟨done, ?_, hdone⟩, ?_⟩
  · exact honce 0 _ (by rw [hended]; rfl)
  · rw [hsubmissions]
    exact List.append_nil done
  · rw [(hlisting "note").2.1, hstore]
    rfl

end Served

end LiveForm
