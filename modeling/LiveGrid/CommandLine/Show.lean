import LiveGrid.CommandLine.Options
import LiveGrid.CommandLine.Path
import LiveGrid.Number.Written

/-!
Contract: the command line of the program.

Owns:
- its options and the arguments that they lead to;
- its usage and help texts;
- the delay for the escape key, which the environment may set.

Does not own: the program.
-/

namespace LiveGrid.CommandLine.Show

/-- The options of the program. -/
inductive Choice where
  | help
  | rate
  | noAudio
  | log
  | noLog
deriving DecidableEq, Repr

/-- The options by their names. -/
def specs : List (OptionSpec Choice) :=
  [⟨.help, ["-h", "--help"], false⟩, ⟨.rate, ["--fps"], true⟩, ⟨.noAudio, ["--no-audio"], false⟩,
   ⟨.log, ["--log"], true⟩, ⟨.noLog, ["--no-log"], false⟩]

/-- The arguments of the program. Without a path the log lies beside the program. -/
structure Arguments where
  framesPerSecond : Float := 30
  noAudio : Bool := false
  logPath : Option String := none
  noLog : Bool := false

/-- The name of the log's file that lies beside the program. -/
def defaultLogName : String := "tixy_session.csv"

/-- The arguments after a setting. -/
def apply (arguments : Arguments) (setting : Setting Choice) : Outcome Arguments :=
  let value := setting.value.getD ""
  match setting.option with
  | .help => .help
  | .rate =>
      match Number.Written.double? value with
      | some rate => .run { arguments with framesPerSecond := rate }
      | none => .fault (.invalidValue ["--fps"] "float" value)
  | .noAudio => .run { arguments with noAudio := true }
  | .log => .run { arguments with logPath := some (plainPath value) }
  | .noLog => .run { arguments with noLog := true }

/-- What the words of a command lead to. -/
def read (words : List String) : Outcome Arguments := readArguments specs apply {} words

/-- The name of the program. -/
def programName : String := "tixy"

/-- The usage text. -/
def usage : String := "usage: tixy [-h] [--fps FPS] [--no-audio] [--log LOG] [--no-log]\n"

/-- The help text. -/
def helpText : String :=
  usage ++ "\n" ++
  "Live-coded terminal visuals, one expression per cell\n" ++ "\n" ++
  "options:\n" ++
  "  -h, --help  show this help message and exit\n" ++
  "  --fps FPS   Target frame rate (default: 30)\n" ++
  "  --no-audio  Don't open the microphone (v stays 0)\n" ++
  "  --log LOG   Session log path (default: tixy_session.csv beside this script)\n" ++
  "  --no-log    Don't write a session log\n"

/-- The delay for the escape key, in thousandths of a second, unless the environment sets one. -/
def escapeDelay (environment : Option String) : String := environment.getD "25"

end LiveGrid.CommandLine.Show
