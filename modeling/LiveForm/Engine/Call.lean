import LiveForm.Engine.Basic
import LiveForm.Event.Bus

/-!
# Calls of an engine

An `EngineCall` is something that can be asked of an engine and is done at once. It is what those
who listen to events may ask, too. `Engine.obey` says how an engine does it. A call that puts values
in may stop the program, and has no result then.
-/

namespace LiveForm

/-- What an engine does at once. -/
inductive EngineCall where
  | setValue (name : String) (value : Json)
  | setFormData (data : Keyed Json)
  | blur (name : String)
  | validate
  | reset
  | render

namespace Engine

/-- Do what is asked. The answer is whether the form is valid, where that was asked. -/
def perform (e : Engine) : EngineCall → Option (Bool × Engine)
  | .setValue name value => (e.setValue name value).map fun e => (true, e)
  | .setFormData data => (e.setFormData data).map fun e => (true, e)
  | .blur name => some (true, e.blur name)
  | .validate => some e.validate
  | .reset => some (true, e.reset)
  | .render => some (true, e.render)

/-- Do what is asked as a whole. -/
def obey : Obey EngineCall Bool Engine := fun call e => e.update? fun e => e.perform call

end Engine

end LiveForm
