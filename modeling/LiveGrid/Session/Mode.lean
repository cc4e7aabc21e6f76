import LiveGrid.Script.Evaluate

/-!
Contract: the mode of a session.

Owns:
- the two modes: running a script since some time, and editing a text, perhaps after an error;
- the mode that a text leads to: it runs if it compiles, and otherwise it is edited.

Does not own: when the mode changes.
-/

namespace LiveGrid

/-- What a session does: it runs a script, or a text is edited. -/
inductive Mode where
  | running (script : Script) (start : Float) (source : String)
  | editing (source : String) (error : Option String)

namespace Mode

/-- The mode that a text leads to at a time, unless its compilation breaks off. -/
def construct (source : String) (now : Float) : Except Script.ReservedTarget Mode :=
  match Script.compile source with
  | .ok script => .ok (.running script now source)
  | .error (.refused cause) => .ok (.editing source (some cause.message))
  | .error (.reserved target) => .error target

/-- Whether a script runs. -/
def isRunning : Mode → Bool
  | .running _ _ _ => true
  | .editing _ _ => false

/-- The text that runs or is edited. -/
def source : Mode → String
  | .running _ _ source => source
  | .editing source _ => source

/-- The error that is shown with an edited text. -/
def error? : Mode → Option String
  | .running _ _ _ => none
  | .editing _ error => error

end Mode

end LiveGrid
