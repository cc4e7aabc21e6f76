import LiveGrid.Text.Digit
import LiveGrid.Text.Quote

/-!
Contract: how the words of a command are read as options.

An option has names with one or two dashes. A long name may be cut short as long
as only one option can be meant. A value is the next word, or it follows an
equals sign, or a short name without a blank. A word that is no option and no
value is left over; after two dashes alone every word is.

Owns:
- which words are options, which may be values, and which is which;
- the settings that the words ask for, in order, and why reading them breaks off;
- the texts of these causes.

Does not own: which options a program has, and what their values mean.
-/

namespace LiveGrid.CommandLine

/-- An option of a program: its names, and whether it takes a value. -/
structure OptionSpec (α : Type) where
  option : α
  names : List String
  takesValue : Bool

/-- An option as it was used: the option, and its value if it takes one. -/
structure Setting (α : Type) where
  option : α
  value : Option String

/-- A text that is attached to an option, after an equals sign or directly. -/
structure Attached where
  hasEquals : Bool
  text : String
deriving DecidableEq, Repr

/-- What a word is. An option has the name that was meant and perhaps a text attached to it. -/
inductive Word (α : Type) where
  | plain (text : String)
  | separator
  | option (spec : OptionSpec α) (name : String) (attached : Option Attached)
  | unknown (text : String)

/-- Causes for which a command cannot be read. -/
inductive OptionFault where
  | ambiguous (word : String) (candidates : List String)
  | missingValue (names : List String)
  | ignoredValue (names : List String) (value : String)
  | invalidValue (names : List String) (kind value : String)
  | invalidChoice (names : List String) (value : String) (choices : List String)
  | leftOver (words : List String)
deriving DecidableEq, Repr

/-- The text of a cause that concerns an option. -/
def aboutOption (names : List String) (text : String) : String :=
  "argument " ++ String.intercalate "/" names ++ ": " ++ text

/-- The text of a cause. -/
def OptionFault.message : OptionFault → String
  | .ambiguous word candidates =>
      "ambiguous option: " ++ word ++ " could match " ++ String.intercalate ", " candidates
  | .missingValue names => aboutOption names "expected one argument"
  | .ignoredValue names value =>
      aboutOption names ("ignored explicit argument " ++ Text.quote value)
  | .invalidValue names kind value =>
      aboutOption names ("invalid " ++ kind ++ " value: " ++ Text.quote value)
  | .invalidChoice names value choices =>
      aboutOption names
        ("invalid choice: " ++ value ++ " (choose from " ++ String.intercalate ", " choices ++ ")")
  | .leftOver words => "unrecognized arguments: " ++ String.intercalate " " words

/-- The text before the first equals sign and the text after it. -/
def splitAtEquals? (word : List Char) : Option (String × String) :=
  if word.contains '=' then
    some (String.ofList (word.takeWhile (· != '=')),
      String.ofList ((word.dropWhile (· != '=')).drop 1))
  else none

/-- Whether a word is a negative number, with or without a point. A line break may follow it. -/
def isNegativeNumber (word : List Char) : Bool :=
  let isDigit (character : Char) : Bool := (Text.digitValue? character).isSome
  match word with
  | '-' :: digits =>
      let digits := if digits.getLast? == some '\n' then digits.dropLast else digits
      match digits.dropWhile isDigit with
      | [] => !digits.isEmpty
      | '.' :: fraction => !fraction.isEmpty && fraction.all isDigit
      | _ => false
  | _ => false

variable {α : Type}

/-- The option with a name. -/
def specOf? (specs : List (OptionSpec α)) (name : String) : Option (OptionSpec α) :=
  specs.find? (·.names.contains name)

/-- All names with their options, in order. -/
def namedSpecs (specs : List (OptionSpec α)) : List (OptionSpec α × String) :=
  specs.flatMap fun spec => spec.names.map fun name => (spec, name)

/-- The options that a word may mean which is no name of an option: those with a name that it
begins, and the one with a short name that it begins with. -/
def candidates (specs : List (OptionSpec α)) (word : List Char) :
    List (OptionSpec α × String × Option Attached) :=
  match word with
  | '-' :: '-' :: _ =>
      let (start, attached) : String × Option Attached :=
        match splitAtEquals? word with
        | some (start, text) => (start, some ⟨true, text⟩)
        | none => (String.ofList word, none)
      (namedSpecs specs).filterMap fun (spec, name) =>
        if start.toList.isPrefixOf name.toList then some (spec, name, attached) else none
  | _ =>
      (namedSpecs specs).filterMap fun (spec, name) =>
        if name.toList == word.take 2 then
          some (spec, name, some ⟨false, String.ofList (word.drop 2)⟩)
        else if word.isPrefixOf name.toList then some (spec, name, none)
        else none

/-- What a word with a dash at its front is if it is no name of an option. -/
def readDashed (specs : List (OptionSpec α)) (word : String) : Except OptionFault (Word α) :=
  match candidates specs word.toList with
  | [(spec, name, attached)] => .ok (.option spec name attached)
  | [] =>
      if isNegativeNumber word.toList || word.toList.contains ' ' then .ok (.plain word)
      else .ok (.unknown word)
  | several => .error (.ambiguous word (several.map fun (_, name, _) => name))

/-- What a word is. -/
def readWord (specs : List (OptionSpec α)) (word : String) : Except OptionFault (Word α) :=
  match word.toList with
  | '-' :: _ :: _ =>
      match specOf? specs word with
      | some spec => .ok (.option spec word none)
      | none =>
          match splitAtEquals? word.toList with
          | some (name, text) =>
              match specOf? specs name with
              | some spec => .ok (.option spec name (some ⟨true, text⟩))
              | none => readDashed specs word
          | none => readDashed specs word
  | _ => .ok (.plain word)

/-- What the words of a command are. -/
def readWords (specs : List (OptionSpec α)) : List String → Except OptionFault (List (Word α))
  | [] => .ok []
  | word :: rest =>
      if word == "--" then .ok (.separator :: rest.map .plain)
      else do
        let first ← readWord specs word
        let others ← readWords specs rest
        pure (first :: others)

/-- What an option word asks for: settings of options, of which only the last one may still need
the next word as its value, and a part of the word that means nothing. -/
structure Request (α : Type) where
  settings : List (Setting α) := []
  pending : Option (OptionSpec α) := none
  leftOver : List String := []

/-- What an option without a text attached to it asks for. -/
def expandAlone (spec : OptionSpec α) : Request α :=
  if spec.takesValue then { pending := some spec } else { settings := [⟨spec.option, none⟩] }

/-- What an option with a text attached to it asks for. A short option without a value may have
further short options attached, and the text of one that is not known is left over. -/
def expandAttached (specs : List (OptionSpec α)) (spec : OptionSpec α) (isShort hasEquals : Bool)
    (text : List Char) : Except OptionFault (Request α) :=
  if spec.takesValue then .ok { settings := [⟨spec.option, some (String.ofList text)⟩] }
  else
    match text with
    | [] => .error (.ignoredValue spec.names "")
    | first :: rest =>
        if !isShort || hasEquals || first == '-' then
          .error (.ignoredValue spec.names (String.ofList text))
        else
          let others : Except OptionFault (Request α) :=
            match specOf? specs (String.ofList ['-', first]) with
            | none => .ok { leftOver := [String.ofList ('-' :: text)] }
            | some next =>
                if rest.isEmpty then .ok (expandAlone next)
                else if rest.head? == some '=' then
                  expandAttached specs next true true (rest.drop 1)
                else expandAttached specs next true false rest
          others.map fun (request : Request α) =>
            { request with settings := ⟨spec.option, none⟩ :: request.settings }
termination_by text.length
decreasing_by
  · simp only [List.length_drop, List.length_cons]
    omega
  · simp only [List.length_cons]
    omega

/-- Whether a name has a single dash. -/
def isShortName (name : String) : Bool :=
  match name.toList with
  | '-' :: '-' :: _ => false
  | _ => true

/-- What an option word asks for. -/
def expand (specs : List (OptionSpec α)) (spec : OptionSpec α) (name : String)
    (attached : Option Attached) : Except OptionFault (Request α) :=
  match attached with
  | some attached =>
      expandAttached specs spec (isShortName name) attached.hasEquals attached.text.toList
  | none => .ok (expandAlone spec)

/-- The settings of a command as far as they can be read, the words that are left over, and why
reading broke off, if it did. -/
structure Reading (α : Type) where
  settings : List (Setting α) := []
  leftOver : List String := []
  fault : Option OptionFault := none

/-- The reading with what an option word asks for before it. -/
def Reading.after (request : Request α) (reading : Reading α) : Reading α :=
  { reading with
    settings := request.settings ++ reading.settings
    leftOver := request.leftOver ++ reading.leftOver }

/-- The reading with a word left over before it. -/
def Reading.leave (text : String) (reading : Reading α) : Reading α :=
  { reading with leftOver := text :: reading.leftOver }

/-- Reads words as settings. -/
def readSettings (specs : List (OptionSpec α)) : List (Word α) → Reading α
  | [] => {}
  | .plain text :: rest => (readSettings specs rest).leave text
  | .separator :: rest => (readSettings specs rest).leave "--"
  | .unknown text :: rest => (readSettings specs rest).leave text
  | .option spec name attached :: rest =>
      match expand specs spec name attached with
      | .error fault => { fault := some fault }
      | .ok request =>
          match request.pending, rest with
          | none, rest => (readSettings specs rest).after request
          | some pending, .plain text :: rest =>
              let settings := request.settings ++ [⟨pending.option, some text⟩]
              (readSettings specs rest).after { request with settings := settings }
          | some pending, _ => { fault := some (.missingValue pending.names) }

/-- Reads the words of a command. A word that may mean several options is told before anything
else. -/
def readCommand (specs : List (OptionSpec α)) (words : List String) : Reading α :=
  match readWords specs words with
  | .error fault => { fault := some fault }
  | .ok words => readSettings specs words

/-- What a command leads to: a run with arguments, the help text, or a fault. -/
inductive Outcome (β : Type) where
  | run (arguments : β)
  | help
  | fault (cause : OptionFault)

/-- Applies settings in order to arguments. Help and faults end that. -/
def applySettings {β : Type} (apply : β → Setting α → Outcome β) (arguments : β) :
    List (Setting α) → Outcome β
  | [] => .run arguments
  | setting :: rest =>
      match apply arguments setting with
      | .run next => applySettings apply next rest
      | .help => .help
      | .fault cause => .fault cause

/-- What a command leads to, given the arguments that hold without options. -/
def readArguments {β : Type} (specs : List (OptionSpec α)) (apply : β → Setting α → Outcome β)
    (arguments : β) (words : List String) : Outcome β :=
  let reading := readCommand specs words
  match applySettings apply arguments reading.settings with
  | .run arguments =>
      match reading.fault with
      | some cause => .fault cause
      | none =>
          if reading.leftOver.isEmpty then .run arguments else .fault (.leftOver reading.leftOver)
  | .help => .help
  | .fault cause => .fault cause

/-- The text that is printed when a command cannot be read. -/
def faultText (program usage : String) (cause : OptionFault) : String :=
  usage ++ program ++ ": error: " ++ cause.message ++ "\n"

/-- The exit code when a command cannot be read. -/
def faultCode : Nat := 2

end LiveGrid.CommandLine
