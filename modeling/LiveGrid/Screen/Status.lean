import LiveGrid.Session.Live

/-!
Contract: the status line of a session.

Owns: the text that runs, the time since it was started, the loudness and the keys, in one line.

Does not own: where the line is shown.
-/

namespace LiveGrid

/-- A number with a fixed count of places, padded to a width. -/
def columnText (width places : Nat) (value : Float) : String :=
  Number.Decimal.padLeft width ' ' (Number.Decimal.fixed places value)

/-- The status line of a session. During an edit it names no text. -/
def Session.statusLine (session : Session) (loudness : Float) : String × Session :=
  let source :=
    match session.mode with
    | .running _ _ source => source
    | .editing _ _ => ""
  let (elapsed, session) := session.elapsed
  ("  " ++ source ++ "   t " ++ columnText 6 1 elapsed ++ "  v " ++ columnText 4 2 loudness ++
    "   esc edit  0-" ++ Number.Decimal.numeral (patterns.length - 1) ++ " patterns  ^c quit  ",
    session)

end LiveGrid
