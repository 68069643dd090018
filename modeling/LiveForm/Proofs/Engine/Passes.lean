import LiveForm.Proofs.Engine.Findings

/-!
# What a full validation tells

A full validation takes all errors away and then stores those that it found, one after the other, in
the order of their names. What it found is in this order and has no empty messages, so that each of
them is put behind those before it, and its event carries the errors so far: the last one carries
them all. Nothing else is told. What the user filled in, what was touched and how far the form is
stay as they are.
-/

namespace LiveForm

/-- The events of errors that take the place of all others: the error at each place comes with those
up to it. -/
def FormEvent.ofErrors (errors : Errors) : List FormEvent :=
  .errorsCleared :: errors.zipIdx.map fun (entry, n) =>
    .errorChange entry.1 (some entry.2) (errors.take (n + 1))

/-- The event of the last error carries all of them. -/
theorem FormEvent.getLast?_ofErrors {errors : Errors} {entry : String × String}
    (h : errors.getLast? = some entry) :
    (ofErrors errors).getLast? = some (.errorChange entry.1 (some entry.2) errors) := by
  obtain ⟨before, rfl⟩ := List.getLast?_eq_some_iff.mp h
  rw [ofErrors, List.zipIdx_append, List.zipIdx_singleton, List.map_append, ← List.cons_append,
    List.map_singleton, List.getLast?_concat, Nat.zero_add]
  have hall : (before ++ [entry]).take (before.length + 1) = before ++ [entry] :=
    List.take_of_length_le (Nat.le_of_eq List.length_append)
  exact congrArg (fun found => some (errorChange entry.1 (some entry.2) found)) hall

example : FormEvent.ofErrors [("age", "too low"), ("name", "missing")] =
    [.errorsCleared, .errorChange "age" (some "too low") [("age", "too low")],
      .errorChange "name" (some "missing") [("age", "too low"), ("name", "missing")]] := rfl

namespace FormState

@[simp] theorem touched_setError (s : FormState) (name : String) (error : Option String) :
    (s.setError name error).touched = s.touched := rfl

/-- An error that comes after all others is put behind them, and its event carries them all. -/
theorem setError_of_last {s : FormState} {entry : String × String} (hne : entry.2 ≠ "")
    (hlast : ∀ other ∈ s.errors, other.1 < entry.1) :
    s.setError entry.1 (some entry.2) =
      ({ s with errors := s.errors ++ [entry] }).queue
        (.errorChange entry.1 (some entry.2) (s.errors ++ [entry])) := by
  have hkept : (some entry.2).filter (fun m => m ≠ "") = some entry.2 :=
    Option.filter_eq_some_iff.mpr ⟨rfl, decide_eq_true hne⟩
  simp only [setError, hkept, Keyed.insert_of_last hlast]

/-- Errors that are stored in their order behind others tell one after the other what is stored so
far. -/
theorem pending_foldl_setError {errors : Errors} (hne : ∀ entry ∈ errors, entry.2 ≠ "")
    {s : FormState} (hordered : Keyed.Ordered (s.errors ++ errors)) :
    (errors.foldl (fun s (name, error) => s.setError name (some error)) s).pending =
      s.pending ++ (errors.zipIdx s.errors.length).map fun (entry, n) =>
        .errorChange entry.1 (some entry.2) ((s.errors ++ errors).take (n + 1)) := by
  -- What is stored grows by one error in each step, and what is left is shorter by it.
  induction errors generalizing s with
  | nil => exact (List.append_nil s.pending).symm
  | cons entry rest ih =>
    have hlast : ∀ other ∈ s.errors, other.1 < entry.1 := fun other hother =>
      (List.pairwise_append.mp hordered).2.2 other hother entry List.mem_cons_self
    have hset := setError_of_last (hne entry List.mem_cons_self) hlast
    have hrest : ∀ other ∈ rest, other.2 ≠ "" :=
      fun other hother => hne other (List.mem_cons_of_mem _ hother)
    have hlength : (s.errors ++ [entry]).length = s.errors.length + 1 := List.length_append
    rw [List.append_cons] at hordered
    have hnext := ih hrest (s := s.setError entry.1 (some entry.2)) (hset ▸ hordered)
    simp only [hset, queue] at hnext
    rw [List.foldl_cons]
    simp only [hset, queue]
    rw [hnext, hlength, List.zipIdx_cons, List.map_cons, List.append_cons s.errors entry rest,
      ← hlength, List.take_left, List.append_assoc, List.singleton_append]

end FormState

namespace Engine

variable {e : Engine} {d : FormDefinition}

theorem fst_writeErrors_none (h : e.definition = none) : e.writeErrors.1 = [] := by
  simp only [writeErrors, h]

/-- What a full validation finds is what the validator says of all fields that it covers. -/
theorem fst_writeErrors (h : e.definition = some d) :
    e.writeErrors.1 = (e.validator.validateAll (e.inScope d) e.state.data).1 := by
  simp only [writeErrors, h]

/-- What a full validation finds is in the order of the names. -/
theorem ordered_writeErrors (e : Engine) : Keyed.Ordered e.writeErrors.1 := by
  cases hd : e.definition with
  | none =>
    rw [fst_writeErrors_none hd]
    exact List.Pairwise.nil
  | some d =>
    rw [fst_writeErrors hd]
    exact e.validator.ordered_validateAll _

theorem ne_empty_of_mem_writeErrors {entry : String × String} (h : entry ∈ e.writeErrors.1) :
    entry.2 ≠ "" := by
  cases hd : e.definition with
  | none =>
    rw [fst_writeErrors_none hd] at h
    cases h
  | some d =>
    rw [fst_writeErrors hd] at h
    exact (e.validator.mem_of_mem_validateAll _ h).2

/-- What a full validation finds is what it stores. -/
theorem errors_writeErrors (e : Engine) : e.writeErrors.2.state.errors = e.writeErrors.1 := by
  have hstored : e.writeErrors.2.state.errors = (e.storeErrors e.writeErrors.1).state.errors := rfl
  rw [hstored, errors_storeErrors e e.ordered_writeErrors fun _ => ne_empty_of_mem_writeErrors]

theorem validator_writeErrors (hd : e.definition = some d) :
    e.writeErrors.2.validator = (e.validator.validateAll (e.inScope d) e.state.data).2 :=
  congrArg Findings.validator (findings_writeErrors hd)

theorem touched_writeErrors (e : Engine) : e.writeErrors.2.state.touched = e.state.touched :=
  foldl_keeps FormState.touched (fun _ _ => FormState.touched_setError _ _ _) e.writeErrors.1
    e.state.clearErrors

theorem touched_showMessage (e : Engine) (text : String) (kind : MessageKind) :
    (e.showMessage text kind).state.touched = e.state.touched := by
  simp only [showMessage]
  split <;> rfl

/-- A full validation tells that all errors are gone and then of each that it found. -/
theorem drain_writeErrors (e : Engine) :
    e.writeErrors.2.drain.1 = e.drain.1 ++ FormEvent.ofErrors e.writeErrors.1 := by
  have hpending := FormState.pending_foldl_setError
    (fun _ => ne_empty_of_mem_writeErrors) (s := e.state.clearErrors) e.ordered_writeErrors
  have hstored : e.writeErrors.2.drain.1 =
      e.outbox ++ (e.writeErrors.1.foldl (fun s (name, error) => s.setError name (some error))
        e.state.clearErrors).pending := rfl
  rw [hstored, hpending]
  show e.outbox ++ (e.state.pending ++ [.errorsCleared] ++ _) = e.outbox ++ e.state.pending ++ _
  simp only [List.append_assoc]
  rfl

/-- A submission is refused for its errors exactly if there are any. -/
theorem prepare_refused {errors : Errors} (h : e.prepare.1 = .error (.invalid errors)) :
    errors = e.writeErrors.1 ∧ errors ≠ [] ∧
      e.prepare.2 = (e.writeErrors.2.push (.validationFailed errors)).showMessage fixErrorsText
        .error := by
  by_cases hready : e.status.isReady = true
  · cases hd : e.definition with
    | none => rw [prepare_notReady (.inl hd)] at h; cases h
    | some d =>
      by_cases hvalid : e.writeErrors.1.isEmpty = true
      · rw [prepare_eq hd hready hvalid] at h
        cases h
      · rw [prepare_invalid hd hready hvalid] at h ⊢
        cases h
        exact ⟨rfl, mt List.isEmpty_iff.mpr hvalid, rfl⟩
  · rw [prepare_notReady (.inr hready)] at h
    cases h

/-- After the pass a refused submission tells of its errors and shows a message. -/
theorem drain_prepare_refused {errors : Errors} (h : e.prepare.1 = .error (.invalid errors)) :
    e.prepare.2.drain.1 = e.writeErrors.2.drain.1 ++ [.validationFailed errors,
      .message ⟨e.messages + 1, fixErrorsText, .error⟩] := by
  rw [(prepare_refused h).2.2, drain_showMessage, drain_push, List.append_assoc]
  rfl

end Engine

end LiveForm
