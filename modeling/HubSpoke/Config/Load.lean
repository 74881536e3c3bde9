import HubSpoke.Config.Basic
import HubSpoke.Text.Utf8
import HubSpoke.Toml.Reader
import HubSpoke.Workplace.Basic

/-!
# Configuration files

A configuration file is UTF-8 text in TOML of limited size, and holds a configuration that makes
sense.  The file is the one named, else the one the environment names, else the default one.
-/

namespace HubSpoke

/-- Why there is no configuration. -/
inductive ConfigError where
  /-- The file cannot be read. -/
  | io (cause : FileError)
  /-- The file is not in the format of configurations. -/
  | parse
  | invalid (defect : ConfigDefect)
deriving DecidableEq, Repr

def ConfigError.message : ConfigError → String
  | .io cause => "config io error: " ++ cause.message
  | .parse => "config parse error: the file holds no configuration"
  | .invalid defect => "invalid config: " ++ defect.message

namespace Configuration

/-- The greatest size of a file, in octets. -/
def maxFileSize : Nat := 1024 * 1024

/-- The file that is read when none is named. -/
def defaultPath : String := "policy-conversion.toml"

/-- The variable that names a file. -/
def pathVariable : String := "POLICY_CONVERSION_CONFIG"

/-- The configuration a text holds, whether it makes sense or not. -/
def ofText? (text : String) : Option Configuration := do
  (codec.decode (← Toml.parse? text)).toOption

/-- The configuration the octets of a file hold. -/
def ofOctets (octets : ByteArray) : Except ConfigError Configuration := do
  if maxFileSize < octets.size then throw (.invalid .fileTooLarge)
  let text ← (Utf8.decode octets).mapError fun _ => .invalid .fileNotText
  match ofText? text with
  | none => .error .parse
  | some configuration => do
      configuration.check.mapError .invalid
      return configuration

/-- The first defect of the path of a file. -/
def checkFilePath (path : String) : Except ConfigDefect Unit :=
  if maxPathLength < path.utf8ByteSize then .error .filePathTooLong
  else if hasLongPart path then .error .filePathPartTooLong
  else .ok ()

variable {m : Type → Type} [Monad m] [Workplace m]

/-- The configuration of the file at a path. -/
def loadFile (path : String) : m (Except ConfigError Configuration) :=
  match checkFilePath path with
  | .error defect => return .error (.invalid defect)
  | .ok () => do
      match ← Workplace.readFile path with
      | .error cause => return .error (.io cause)
      | .ok octets => return ofOctets octets

/-- The configuration of the file named here or in the environment, or of the default one. -/
def load (named? : Option String) : m (Except ConfigError Configuration) := do
  match named? <|> (← Workplace.environment pathVariable) with
  | some path => loadFile path
  | none => loadFile defaultPath

/-- The configuration of the file named here or in the environment, or of the default one if there
is such a file; else the default configuration. -/
def loadOrDefault (named? : Option String) : m (Except ConfigError Configuration) := do
  let isNamed := (named? <|> (← Workplace.environment pathVariable)).isSome
  if isNamed || (← Workplace.isPresent defaultPath) then load named? else return .ok {}

end Configuration

end HubSpoke
