import LiveGrid.CommandLine.Options
import LiveGrid.Number.Decimal
import LiveGrid.Number.Written
import LiveGrid.Session.Pattern

/-!
Contract: the command line of the benchmark.

Owns:
- its options and the arguments that they lead to;
- its usage and help texts.

Does not own: the benchmark.
-/

namespace LiveGrid.CommandLine.Measure

/-- The options of the benchmark. -/
inductive Choice where
  | help
  | frames
  | pattern
  | rows
  | columns
  | lineTiming
  | dump
deriving DecidableEq, Repr

/-- The names of an option. -/
def Choice.names : Choice → List String
  | .help => ["-h", "--help"]
  | .frames => ["-n", "--frames"]
  | .pattern => ["-p", "--pattern"]
  | .rows => ["--rows"]
  | .columns => ["--cols"]
  | .lineTiming => ["--line-timing"]
  | .dump => ["--dump"]

/-- Whether an option takes a value. -/
def Choice.takesValue : Choice → Bool
  | .help => false
  | .lineTiming => false
  | _ => true

/-- The options by their names. -/
def specs : List (OptionSpec Choice) :=
  [.help, .frames, .pattern, .rows, .columns, .lineTiming, .dump].map fun (choice : Choice) =>
    ⟨choice, choice.names, choice.takesValue⟩

/-- The arguments of the benchmark. -/
structure Arguments where
  frames : Int := 300
  pattern : Int := 0
  rows : Int := 40
  columns : Int := 100
  lineTiming : Bool := false
  dumpPath : Option String := none
deriving DecidableEq, Repr

/-- The numbers of the built-in scripts. -/
def patternChoices : List String := (List.range patterns.length).map Number.Decimal.numeral

/-- Uses the whole number that is the value of a setting. -/
def withWhole (setting : Setting Choice) (use : Int → Outcome Arguments) : Outcome Arguments :=
  let value := setting.value.getD ""
  match Number.Written.whole? value with
  | some number => use number
  | none => .fault (.invalidValue setting.option.names "int" value)

/-- The arguments after a setting. -/
def apply (arguments : Arguments) (setting : Setting Choice) : Outcome Arguments :=
  match setting.option with
  | .help => .help
  | .frames => withWhole setting fun number => .run { arguments with frames := number }
  | .pattern =>
      withWhole setting fun number =>
        if 0 ≤ number ∧ number < patterns.length then .run { arguments with pattern := number }
        else
          .fault (.invalidChoice setting.option.names (Number.Decimal.wholeNumeral number)
            patternChoices)
  | .rows => withWhole setting fun number => .run { arguments with rows := number }
  | .columns => withWhole setting fun number => .run { arguments with columns := number }
  | .lineTiming => .run { arguments with lineTiming := true }
  | .dump => .run { arguments with dumpPath := setting.value }

/-- What the words of a command lead to. -/
def read (words : List String) : Outcome Arguments := readArguments specs apply {} words

/-- The name of the program. -/
def programName : String := "tixy-bench"

/-- The usage text. -/
def usage : String :=
  "usage: tixy-bench [-h] [-n FRAMES] [-p \x7b0,1,2,3,4,5\x7d] [--rows ROWS]\n" ++
  "                  [--cols COLS] [--line-timing] [--dump DUMP]\n"

/-- The help text. -/
def helpText : String :=
  usage ++ "\n" ++
  "Profile tixy frame evaluation\n" ++ "\n" ++
  "options:\n" ++
  "  -h, --help            show this help message and exit\n" ++
  "  -n FRAMES, --frames FRAMES\n" ++
  "                        Number of frames to run (default: 300)\n" ++
  "  -p \x7b0,1,2,3,4,5\x7d, --pattern \x7b0,1,2,3,4,5\x7d\n" ++
  "                        Built-in pattern to run (default: 0)\n" ++
  "  --rows ROWS           Simulated terminal rows (default: 40)\n" ++
  "  --cols COLS           Simulated terminal cols (default: 100)\n" ++
  "  --line-timing         Per-frame component timing instead of cProfile\n" ++
  "  --dump DUMP           Dump cProfile binary to this path\n"

end LiveGrid.CommandLine.Measure
