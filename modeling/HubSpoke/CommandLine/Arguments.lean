import HubSpoke.Policy.Version
import HubSpoke.Text.Blank
import HubSpoke.Text.Segments

/-!
# Arguments

The arguments are read level by level: the options of the program, the name of a command, and the
options of that command.  Options come in any order, each at most once a level, with their value
behind an equals sign or as the next argument, which then does not look like an option.

The option that names the configuration is known on every level, and the innermost one counts.
-/

namespace HubSpoke

/-! ## What can be asked for -/

/-- The formats of policy documents. -/
inductive DocumentFormat where
  | json
  | yaml
deriving DecidableEq, Repr

/-- The formats of the table of fields. -/
inductive TableFormat where
  | text
  | json
deriving DecidableEq, Repr

/-- A conversion of one document. -/
structure ConvertCommand where
  input : String
  target : String
  inputFormat : Option DocumentFormat
  outputFormat : DocumentFormat
  output : Option String
deriving DecidableEq, Repr

inductive Command where
  | convert (command : ConvertCommand)
  | validate (input : String) (inputFormat : Option DocumentFormat)
  | review (input : String)
  | fields (format : TableFormat) (manualOnly : Bool)
  | checkConfiguration
deriving DecidableEq, Repr

/-- What arguments ask for. -/
inductive Request where
  | version
  | run (configPath : Option String) (command : Command)
deriving DecidableEq, Repr

/-! ## Levels -/

/-- What an option takes. -/
inductive Takes where
  | nothing
  | text
  | path
  /-- One of some words. -/
  | word (words : List String)
deriving DecidableEq, Repr

/-- The value may be given. -/
def Takes.admits : Takes → String → Bool
  | .nothing, _ => false
  | .text, _ => true
  | .path, value => !value.isEmpty
  | .word words, value => words.contains value

/-- The option that names the configuration. -/
def configOption : String × Takes := ("config", .path)

/-- The options of a level. -/
abbrev Options := List (String × Takes)

/-- What a level of arguments holds. -/
inductive Level where
  /-- The version is asked for. -/
  | version
  /-- Options with their values, and what follows them: nothing, or a word and more arguments. -/
  | options (given : List (String × String)) (rest : List String)
deriving DecidableEq, Repr

/-- The name and the value of an argument that starts with two dashes. -/
def splitOption (argument : String) : String × Option String :=
  let chars := argument.toList.drop 2
  let name := chars.takeWhile (· != '=')
  (String.ofList name,
    if name.length < chars.length then some (String.ofList (chars.drop (name.length + 1))) else none)

/-- The argument looks like an option; a lone dash does not. -/
def looksLikeOption (argument : String) : Bool :=
  argument.startsWith "-" && argument != "-"

/-- Reads the options of a level, after those already given. -/
def readLevel (known : Options) (given : List (String × String)) : List String → Option Level
  | [] => some (.options given [])
  | argument :: rest =>
      if argument = "--" then if rest.isEmpty then some (.options given []) else none
      else if argument.startsWith "--" then
        let (name, value?) := splitOption argument
        if (given.lookup name).isSome then none
        else match known.lookup name, value?, rest with
          | none, _, _ => none
          | some .nothing, none, rest =>
              if name = "version" then some .version
              else readLevel known ((name, "") :: given) rest
          | some takes, some value, rest =>
              if takes.admits value then readLevel known ((name, value) :: given) rest else none
          | some takes, none, value :: rest =>
              if !looksLikeOption value && takes.admits value then
                readLevel known ((name, value) :: given) rest
              else none
          | some _, none, [] => none
      else if argument.startsWith "-V" ∧ (known.lookup "version").isSome then some .version
      else if looksLikeOption argument then none
      else some (.options given (argument :: rest))

/-! ## Commands -/

/-- The format of a document a word names. -/
def DocumentFormat.ofName? : String → Option DocumentFormat
  | "json" => some .json
  | "yaml" => some .yaml
  | _ => none

/-- The format of the table a word names. -/
def TableFormat.ofName? : String → Option TableFormat
  | "text" => some .text
  | "json" => some .json
  | _ => none

/-- The options of a command, by its name. -/
def commandOptions? (name : String) : Option Options :=
  let format : Takes := .word ["json", "yaml"]
  [("convert", [("input", .path), ("to", .text), ("input-format", format),
      ("output-format", format), ("output", .path)]),
    ("validate", [("input", .path), ("input-format", format)]),
    ("review", [("input", .path)]),
    ("fields", [("format", .word ["text", "json"]), ("manual-only", .nothing)])].lookup name

/-- The command of a name with options. -/
def command? (name : String) (given : List (String × String)) : Option Command :=
  let format? (option : String) := (given.lookup option).bind DocumentFormat.ofName?
  match name with
  | "convert" => do
      return .convert {
        input := ← given.lookup "input"
        target := ← given.lookup "to"
        inputFormat := format? "input-format"
        outputFormat := (format? "output-format").getD .json
        output := given.lookup "output" }
  | "validate" => do return .validate (← given.lookup "input") (format? "input-format")
  | "review" => do return .review (← given.lookup "input")
  | "fields" =>
      some (.fields (((given.lookup "format").bind TableFormat.ofName?).getD .text)
        (given.lookup "manual-only").isSome)
  | _ => none

/-- What the arguments after the options of the program ask for. -/
def readCommand (configPath : Option String) : List String → Option Request
  | "config" :: rest => do
      let .options outer ("validate" :: rest) ← readLevel [configOption] [] rest | none
      let .options inner [] ← readLevel [configOption] [] rest | none
      return .run (inner.lookup "config" <|> outer.lookup "config" <|> configPath)
        .checkConfiguration
  | name :: rest => do
      let .options given [] ← readLevel (configOption :: (← commandOptions? name)) [] rest | none
      return .run (given.lookup "config" <|> configPath) (← command? name given)
  | [] => none

/-- What arguments ask for, or nothing when they make no sense. -/
def Request.ofArguments? (arguments : List String) : Option Request := do
  match ← readLevel [configOption, ("version", .nothing)] [] arguments with
  | .version => return .version
  | .options given rest => readCommand (given.lookup "config") rest

end HubSpoke
