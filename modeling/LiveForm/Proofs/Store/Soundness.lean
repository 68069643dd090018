import LiveForm.Proofs.Engine.Seeding
import LiveForm.Proofs.Layout.Resolution
import LiveForm.Proofs.Rules.Patterns
import LiveForm.Proofs.Session.LatestLoad
import LiveForm.Store.Sample
import LiveForm.Store.Service

/-!
# What is in a store can be used

A store takes a definition only if it can be used (`Store.accepts_iff`), and what it refuses leaves
it as it was. So every definition of a store that was reached by its own calls has the identifier
under which it is kept, a layout that is not too deep, and patterns that compile
(`Store.Reached.usable`).

Nobody who uses a stored definition needs to expect an error then: the layout resolves to its end, so
that every preview succeeds, and an engine that loads the form accepts it, whatever patterns it
keeps. What a store does not look at are the defaults: where an array has no room for one of them,
the load that takes the form up stops (`Store.overfull_form_stops`). All of it together is
`Store.Reached.sound`.
-/

namespace LiveForm

/-! ## Definitions that can be used -/

/-- A definition that can be used. -/
structure FormDefinition.Usable (d : FormDefinition) : Prop where
  check : d.check = .ok ()
  patterns : ∀ f ∈ d.fields, f.Compiles

namespace FormDefinition

/-- The preview of a definition that can be used succeeds with any data. -/
theorem Usable.exists_preview {d : FormDefinition} (h : d.Usable) (data : Json) :
    ∃ text, d.preview data = .ok text := by
  obtain ⟨shown, hshown⟩ := LayoutNode.exists_resolve (FormDefinition.depth_le_of_check h.check)
    ⟨d, visibilityMap d.fields (FormState.ofData data.membersOf).data, .builtins⟩
  rw [preview, hshown]
  exact ⟨_, rfl⟩

end FormDefinition

namespace Engine

/-- An engine accepts a definition that can be used. -/
theorem check_of_usable {d : FormDefinition} (h : d.Usable) (e : Engine) :
    (e.check d).1 = .ok () := by
  rw [check_of_ok h.check]
  exact Validator.checkFields_ok h.patterns e.validator

/-- A definition that arrives and can be used is taken up. -/
theorem finishLoad_usable {d : FormDefinition} (h : d.Usable) (e : Engine) {number : Nat}
    (hnumber : e.loads = number) :
    ∃ v, e.finishLoad number (.ok d) =
      (({ e with validator := v }).install d).map fun (done : Engine) =>
        (.loaded d.formId, done.drain) := by
  have hchecked : (e.check d).2 = { e with validator := (e.validator.checkPatterns d).2 } := by
    rw [check_of_ok h.check]
  refine ⟨(e.validator.checkPatterns d).2, ?_⟩
  rw [finishLoad_ok, check_of_usable h, hchecked]
  simp only [update?, conclude, if_neg (not_not_intro hnumber), Except.map, Option.map_map]
  rfl

/-- Its load has a result exactly if there is room for each of its defaults at its turn. -/
theorem isSome_finishLoad_usable {d : FormDefinition} (h : d.Usable) (e : Engine) {number : Nat}
    (hnumber : e.loads = number) :
    (e.finishLoad number (.ok d)).isSome = true ↔
      e.state.data.AllWritable ((e.sown d).map Sowing.entry) := by
  obtain ⟨v, hfinish⟩ := finishLoad_usable h e hnumber
  rw [hfinish, Option.isSome_map]
  exact ({ e with validator := v }).isSome_install_iff d

/-- A load for which an error arrives is given up. -/
theorem finishLoad_error (e : Engine) {number : Nat} (hnumber : e.loads = number)
    (error : FormError) :
    e.finishLoad number (.error error) = some (.failed error, (e.failLoad error).drain) := by
  simp only [finishLoad, update?, if_neg (not_not_intro hnumber), Option.map_some]

end Engine

namespace Store

variable {s : Store} {k : String} {d : FormDefinition}

/-! ## The calls of a store -/

/-- A store takes the definitions that can be used, each under its own identifier. -/
theorem accepts_iff : accepts k d = .ok () ↔ d.formId = k ∧ d.Usable := by
  unfold accepts
  constructor
  · intro h
    split at h
    · cases h
    · rename_i hid
      split at h
      · cases h
      · rename_i hcheck
        split at h
        · cases h
        · rename_i hpatterns
          have hfields := Validator.compiles_of_checkFields PatternCache.faithful_nil hpatterns
          exact ⟨not_not.mp hid, hcheck, hfields⟩
  · rintro ⟨hid, hcheck, hfields⟩
    have hpatterns : (({} : Validator).checkPatterns d).1 = .ok () :=
      Validator.checkFields_ok hfields {}
    rw [if_neg (not_not_intro hid), hcheck]
    dsimp only
    rw [hpatterns]

/-- A definition that is not taken leaves the store as it was. -/
theorem put_error {e : StoreError} (h : (s.put k d).1 = .error e) : (s.put k d).2 = s := by
  cases haccepts : accepts k d with
  | error error => rw [put_of_accepts_error haccepts]
  | ok =>
    rw [put, haccepts] at h
    cases h

/-- A definition is stored when it is taken, and nothing else changes. -/
theorem put_cases (s : Store) (k : String) (d : FormDefinition) :
    (s.put k d).2 = s ∨
      accepts k d = .ok () ∧ (s.put k d).2 = { s with forms := Keyed.insert s.forms k d } := by
  cases haccepts : accepts k d with
  | error error =>
    rw [put_of_accepts_error haccepts]
    exact .inl rfl
  | ok =>
    rw [put, haccepts]
    exact .inr ⟨rfl, rfl⟩

/-- A submission never touches the forms. -/
theorem forms_submit (s : Store) (k : String) (data : Json) (stamp : Stamp) :
    (s.submit k data stamp).2.forms = s.forms := by
  unfold submit
  split <;> rfl

/-- A submission that is not taken leaves the store as it was. -/
theorem submit_error {data : Json} {stamp : Stamp} {e : StoreError}
    (h : (s.submit k data stamp).1 = .error e) : (s.submit k data stamp).2 = s := by
  cases hform : s.form? k with
  | none => rw [submit, hform]
  | some d =>
    rw [submit, hform] at h
    cases h

/-- The stores that the calls lead to, from an empty one or the one with the sample form. -/
inductive Reached : Store → Prop
  | new : Reached {}
  | seeded : Reached seeded
  | put {s : Store} (h : Reached s) (k : String) (d : FormDefinition) : Reached (s.put k d).2
  | submit {s : Store} (h : Reached s) (k : String) (data : Json) (stamp : Stamp) :
      Reached (s.submit k data stamp).2

/-- Every definition is kept under its own identifier and can be used. -/
def Sound (s : Store) : Prop := ∀ k d, s.form? k = some d → d.formId = k ∧ d.Usable

theorem sound_empty : Sound {} := by
  intro k d h
  cases h

/-- Storing a definition keeps the others, and adds one that can be used. -/
theorem Sound.put (h : s.Sound) (k : String) (d : FormDefinition) : (s.put k d).2.Sound := by
  rcases put_cases s k d with heq | ⟨haccepts, heq⟩
  · rw [heq]
    exact h
  · intro other found hfound
    rw [heq, form?] at hfound
    by_cases hother : other = k
    · subst hother
      rw [Keyed.find?_insert_self] at hfound
      cases hfound
      exact accepts_iff.mp haccepts
    · rw [Keyed.find?_insert_of_ne _ hother] at hfound
      exact h other found hfound

theorem Sound.submit (h : s.Sound) (k : String) (data : Json) (stamp : Stamp) :
    (s.submit k data stamp).2.Sound := by
  intro other found hfound
  rw [form?, forms_submit] at hfound
  exact h other found hfound

theorem Reached.usable (h : s.Reached) : s.Sound := by
  induction h with
  | new => exact sound_empty
  | seeded => exact sound_empty.put _ _
  | put h k d ih => exact ih.put k d
  | submit h k data stamp ih => exact ih.submit k data stamp

/-- Requests do nothing to a store but by its calls. -/
theorem Reached.respond (h : s.Reached) (r : Http.Request) (stamp : Stamp) :
    (s.respond r stamp).2.Reached := by
  have hperform (id : String) (route : Route) : (s.perform r stamp id route).2.Reached := by
    -- Only two routes have a method that writes: `put` for a form and `post` for a submission.
    cases route with
    | form path =>
      simp only [perform]
      split
      · cases r.structure? FormDefinition.record with
        | error code => exact h
        | ok d => exact h.put id d
      · exact h
    | submissions path =>
      simp only [perform]
      split
      · cases r.structure? Payload.record with
        | error code => exact h
        | ok p => exact h.submit id p.data stamp
      · exact h
    | preview path =>
      simp only [perform]
      cases r.structure? Payload.record with
      | error code => exact h
      | ok p => exact h
    | _ => exact h
  unfold Store.respond
  split
  · exact h
  · split
    · exact h
    · split
      · exact h
      · split
        · exact h
        · exact hperform _ _

/-! ## Those who use what is stored -/

/-- What an engine is told of a form that is not there. -/
theorem fetchDefinition_of_none (h : s.form? k = none) :
    s.fetchDefinition k = .error (.status 404 "Form not found") := by
  rw [fetchDefinition, get, h]
  rfl

theorem fetchDefinition_of_some (h : s.form? k = some d) : s.fetchDefinition k = .ok d := by
  rw [fetchDefinition, get, h]
  rfl

/-- How a load ends that is the last one when a sound store answers. -/
theorem Sound.finishLoad (h : s.Sound) {e e' : Engine} {outcome : LoadOutcome}
    {events : List FormEvent}
    (hfinish : e.finishLoad e.loads ((FormSource.id k).arrived (s.fetchDefinition k)) =
      some (outcome, events, e')) :
    outcome = if (s.form? k).isSome then .loaded k else .failed (.network "Form not found") := by
  cases hform : s.form? k with
  | none =>
    rw [fetchDefinition_of_none hform] at hfinish
    cases (e.finishLoad_error rfl _).symm.trans hfinish
    rfl
  | some d =>
    obtain ⟨rfl, husable⟩ := h k d hform
    obtain ⟨v, htaken⟩ := Engine.finishLoad_usable husable e rfl
    rw [fetchDefinition_of_some hform] at hfinish
    obtain ⟨done, -, heq⟩ := Option.map_eq_some_iff.mp (htaken.symm.trans hfinish)
    cases heq
    rfl

/-- It ends exactly if there is room for the defaults of the form, where there is one. -/
theorem Sound.isSome_finishLoad_iff (h : s.Sound) (k : String) (e : Engine) :
    (e.finishLoad e.loads ((FormSource.id k).arrived (s.fetchDefinition k))).isSome = true ↔
      ∀ d, s.form? k = some d → e.state.data.AllWritable ((e.sown d).map Sowing.entry) := by
  cases hform : s.form? k with
  | none =>
    rw [fetchDefinition_of_none hform]
    exact iff_of_true (congrArg Option.isSome (e.finishLoad_error rfl _)) nofun
  | some d =>
    obtain ⟨rfl, husable⟩ := h k d hform
    rw [fetchDefinition_of_some hform]
    simp only [Option.some.injEq, forall_eq']
    exact Engine.isSome_finishLoad_usable husable e rfl

/-- A preview of a form that is stored succeeds with any payload. -/
theorem Sound.perform_preview (h : s.Sound) (hform : s.form? k = some d) (data : Json) :
    ∃ text, d.preview data = .ok text ∧
      ∀ (r : Http.Request) (stamp : Stamp) (path : String),
        r.structure? Payload.record = .ok ⟨data⟩ →
          s.perform r stamp k (.preview path) = (⟨200, .text text⟩, s) := by
  obtain ⟨text, htext⟩ := (h k d hform).2.exists_preview data
  refine ⟨text, htext, ?_⟩
  intro r stamp path hpayload
  have hget : s.get k = .ok d := by rw [get, hform]
  simp only [perform, hpayload, hget, Except.bind, htext, Except.mapError, answer]

open Session in
/-- In every store that was reached, each definition has the identifier under which it is kept, was
checked, and has patterns that compile. A refused call leaves the store as it was. The preview of a
stored form succeeds with any payload. A load of an engine for which the store answers is superseded
exactly if another one was started after it; otherwise the form is taken up if it is stored, and the
load fails for the lack of it if it is not. The load comes to such an end exactly if it is superseded
or there is room for each default of the stored form at its turn. -/
theorem Reached.sound (h : s.Reached) :
    (∀ k d, s.form? k = some d →
      d.formId = k ∧ d.check = .ok () ∧ ∀ f ∈ d.fields, f.Compiles) ∧
    (∀ k d e, (s.put k d).1 = .error e → (s.put k d).2 = s) ∧
    (∀ k data stamp e, (s.submit k data stamp).1 = .error e → (s.submit k data stamp).2 = s) ∧
    (∀ k d, s.form? k = some d → ∀ data, ∃ text, d.preview data = .ok text ∧
      ∀ (r : Http.Request) (stamp : Stamp) (path : String),
        r.structure? Payload.record = .ok ⟨data⟩ →
          s.perform r stamp k (.preview path) = (⟨200, .text text⟩, s)) ∧
    ∀ options timed trace session, Run (.fresh options timed) trace session →
      ∀ n k number, session.loads[n]? = some (.fetching number (.id k)) →
        (∀ events next, Step session (.finishLoad n (s.fetchDefinition k)) events next →
          (next.loads[n]? = some (.ended .superseded) ↔ Overtaken trace n) ∧
          (¬ Overtaken trace n → next.loads[n]? = some (.ended
            (if (s.form? k).isSome then .loaded k else .failed (.network "Form not found"))))) ∧
        ((∃ events next, Step session (.finishLoad n (s.fetchDefinition k)) events next) ↔
          Overtaken trace n ∨ ∀ d, s.form? k = some d →
            session.engine.state.data.AllWritable ((session.engine.sown d).map Sowing.entry)) := by
  have hsound := h.usable
  refine ⟨?_, fun k d e => put_error, fun k data stamp e => submit_error, ?_, ?_⟩
  · intro k d hform
    obtain ⟨hid, husable⟩ := hsound k d hform
    exact ⟨hid, husable.check, husable.patterns⟩
  · intro k d hform data
    exact hsound.perform_preview hform data
  · intro options timed trace session hrun n k number hstage
    refine ⟨fun events next hstep => ⟨?_, fun hlast => ?_⟩, ?_⟩
    · rw [hrun.overtaken_iff rfl]
      exact hstep.superseded_iff hrun.numbered
    · obtain ⟨number', source, outcome, hstage', hfinish, hended⟩ := hstep.finishLoad_eq
      cases hstage.symm.trans hstage'
      obtain rfl := hrun.loads_eq hstage hlast
      rw [hended, hsound.finishLoad hfinish]
    · rw [exists_step_finishLoad_iff hstage]
      by_cases hover : Overtaken trace n
      · have hlate := hrun.loads_ne hstage hover
        obtain ⟨patterns, hfinish⟩ := Engine.finishLoad_late hlate hrun.settled
          ((FormSource.id k).arrived (s.fetchDefinition k))
        exact iff_of_true (congrArg Option.isSome hfinish) (.inl hover)
      · obtain rfl := hrun.loads_eq hstage hover
        rw [hsound.isSome_finishLoad_iff, or_iff_right hover]

open Session in
/-- A load of the note form waits for its answer. -/
theorem exists_fetching_note :
    ∃ trace session, Run (.fresh {} true) trace session ∧ ¬ Overtaken trace 0 ∧
      session = { (Session.fresh {} true) with
        engine := (Session.fresh {} true).engine.beginLoad.2.2
        loads := [.fetching 1 (.id "note")] } := by
  have hrun := (Run.rest : Run (.fresh {} true) [] _).turn (.startLoad (.id "note") rfl)
  exact ⟨_, _, hrun, mt (hrun.overtaken_iff rfl).mp (by decide), rfl⟩

open Session in
/-- A store that started with the sample form takes the note form, previews it, and has it loaded. -/
theorem sound_noteForm :
    ∃ s trace session events next, Reached s ∧ s.form? "note" = some noteForm ∧
      (∃ text, noteForm.preview (.str "no object") = .ok text) ∧
      Run (.fresh {} true) trace session ∧ ¬ Overtaken trace 0 ∧
      Step session (.finishLoad 0 (s.fetchDefinition "note")) events next ∧
      next.loads[0]? = some (.ended (.loaded "note")) := by
  have hreached : Reached (seeded.put "note" noteForm).2 := Reached.seeded.put "note" noteForm
  have hform : (seeded.put "note" noteForm).2.form? "note" = some noteForm :=
    form?_put_of_accepts rfl
  obtain ⟨-, -, -, hpreview, hload⟩ := hreached.sound
  obtain ⟨text, htext, -⟩ := hpreview "note" noteForm hform (.str "no object")
  obtain ⟨trace, session, hstarted, hlast, rfl⟩ := exists_fetching_note
  obtain ⟨hends, hends_iff⟩ := hload {} true trace _ hstarted 0 "note" 1 rfl
  -- The note form has no defaults, so that each of them has room.
  have hroom : ∀ d, (seeded.put "note" noteForm).2.form? "note" = some d →
      (Json.obj []).AllWritable (((Session.fresh {} true).engine.sown d).map Sowing.entry) := by
    rintro d hd
    cases hform.symm.trans hd
    exact Json.allWritable_nil _
  obtain ⟨events, next, hstep⟩ := hends_iff.mpr (.inr hroom)
  have hloaded := (hends events next hstep).2 hlast
  rw [hform] at hloaded
  exact ⟨_, _, _, _, _, hreached, hform, ⟨text, htext⟩, hstarted, hlast, hstep, hloaded⟩

/-- A form of which one field puts in a list, and another an item that no list has room for. -/
def overfullForm : FormDefinition :=
  { Session.noteForm with
    fields :=
      [{ id := "all", name := "tags", kind := .text, defaultValue := some (.arr []) },
        { id := "last", name := "tags.18446744073709551615", kind := .text,
          defaultValue := some (.str "x") }] }

open Session in
/-- A form is stored whose defaults have no room. The engine that loads it comes to no end. -/
theorem overfull_form_stops :
    ∃ s trace session, Reached s ∧ s.form? "note" = some overfullForm ∧
      Run (.fresh {} true) trace session ∧ ¬ Overtaken trace 0 ∧
      session.loads[0]? = some (.fetching 1 (.id "note")) ∧
      ∀ events next, ¬ Step session (.finishLoad 0 (s.fetchDefinition "note")) events next := by
  have hform : (({} : Store).put "note" overfullForm).2.form? "note" = some overfullForm :=
    form?_put_of_accepts rfl
  obtain ⟨trace, session, hstarted, hlast, rfl⟩ := exists_fetching_note
  refine ⟨_, trace, _, Reached.new.put "note" overfullForm, hform, hstarted, hlast, rfl, ?_⟩
  intro events next hstep
  obtain ⟨number, source, outcome, hstage, hfinish, -⟩ := hstep.finishLoad_eq
  cases hstage
  rw [fetchDefinition_of_some hform] at hfinish
  have hstops : (Session.fresh {} true).engine.beginLoad.2.2.finishLoad 1 (.ok overfullForm) =
      none := rfl
  cases hstops.symm.trans hfinish

end Store

end LiveForm
