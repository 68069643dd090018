import LiveForm.Event.Bus

/-!
# What a dispatch keeps

Handlers change the program around only by commands. What every command keeps is therefore kept by
every dispatch, whatever the handlers do, and however deep events are emitted inside events.
-/

namespace LiveForm.Dispatch

variable {κ ρ σ : Type} {obey : Obey κ ρ σ} {emit : Emit κ ρ σ} {P : σ → Prop}

/-- An emission keeps a property of the program around. -/
def Keeps (P : σ → Prop) (emit : Emit κ ρ σ) : Prop :=
  ∀ e w n w', emit e w = some (n, w') → P w.state → P w'.state

/-- Several emissions keep what each of them keeps. -/
theorem emitEach_keeps (hemit : Keeps P emit) {events : List FormEvent} {w w' : World κ ρ σ}
    (h : emitEach emit events w = some w') (hw : P w.state) : P w'.state := by
  induction events generalizing w with
  | nil =>
    cases h
    exact hw
  | cons e rest ih =>
    obtain ⟨⟨n, mid⟩, hmid, hrest⟩ := Option.bind_eq_some_iff.mp h
    exact ih hrest (hemit e w n mid hmid hw)

/-- A script keeps what the commands and the emissions in it keep. -/
theorem run_keeps
    (hobey : ∀ c s answer events s', obey c s = some (answer, events, s') → P s → P s')
    (hemit : Keeps P emit)
    {script : Script κ ρ} {w w' : World κ ρ σ} {clean : Bool}
    (h : run obey emit script w = some (clean, w')) (hw : P w.state) : P w'.state := by
  induction script generalizing w with
  | done =>
    cases h
    exact hw
  | panic =>
    cases h
    exact hw
  | command c next ih =>
    obtain ⟨⟨answer, events, state⟩, hdone, hemitted⟩ := Option.bind_eq_some_iff.mp h
    obtain ⟨mid, hmid, hrest⟩ := Option.bind_eq_some_iff.mp hemitted
    exact ih _ hrest (emitEach_keeps hemit hmid (hobey c w.state _ _ _ hdone hw))
  | subscribe kind handler next _ ih => exact ih _ h hw
  | unsubscribe id next ih => exact ih _ h hw
  | emit e next ih =>
    obtain ⟨⟨n, mid⟩, hmid, hrest⟩ := Option.bind_eq_some_iff.mp h
    exact ih _ hrest (hemit e w n mid hmid hw)

/-- A delivery keeps what the scripts of the subscribers keep. -/
theorem deliver_keeps
    (hobey : ∀ c s answer events s', obey c s = some (answer, events, s') → P s → P s')
    (hemit : Keeps P emit)
    {e : FormEvent} {listeners : List (Subscription (Handler κ ρ))} {w w' : World κ ρ σ} {n : Nat}
    (h : deliver obey emit e listeners w = some (n, w')) (hw : P w.state) : P w'.state := by
  induction listeners generalizing w n with
  | nil =>
    cases h
    exact hw
  | cons s rest ih =>
    obtain ⟨⟨clean, mid⟩, hmid, hrest⟩ := Option.bind_eq_some_iff.mp h
    obtain ⟨⟨count, last⟩, hlast, heq⟩ := Option.map_eq_some_iff.mp hrest
    cases heq
    exact ih hlast (run_keeps hobey hemit hmid hw)

/-- A dispatch keeps what every command keeps. -/
theorem emit_keeps
    (hobey : ∀ c s answer events s', obey c s = some (answer, events, s') → P s → P s')
    (depth : Nat) : Keeps P (Dispatch.emit obey depth : Emit κ ρ σ) := by
  induction depth with
  | zero =>
    intro e w n w' h
    cases h
  | succ depth ih =>
    intro e w n w' h hw
    exact deliver_keeps hobey ih h hw

end LiveForm.Dispatch
