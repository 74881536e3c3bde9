import HubSpoke.Audit.Log
import HubSpoke.CommandLine.Document
import HubSpoke.Config.Load
import HubSpoke.Mapping.FieldTable
import HubSpoke.Review.Handler
import HubSpoke.Validation.Policy

/-!
# Running commands

A command prints its result and tells by its exit code whether all went well.  What goes wrong is
reported in one line.  Arguments that make no sense have an exit code of their own.
-/

namespace HubSpoke

/-- Why a command fails. -/
inductive CommandError where
  | configuration (cause : ConfigError)
  | defect (cause : ConfigDefect)
  | auditLog (cause : AuditLogError)
  | target (given : String)
  | document (cause : DocumentError)
  | policy (cause : SchemaError)
  | conversion (cause : ConversionError)
  | unwritable (path : String) (cause : FileError)
  | reviewText (fault : TextFault)
  | review (cause : ReviewError)

def CommandError.message : CommandError → String
  | .configuration cause => "failed to load config: " ++ cause.message
  | .defect cause => "invalid config: " ++ (ConfigError.invalid cause).message
  | .auditLog cause => "failed to open audit sink: " ++ cause.message
  | .target given => "unsupported target version: " ++ given
  | .document cause => cause.message
  | .policy cause => "failed to decode policy: " ++ cause.message
  | .conversion cause => "conversion failed: " ++ cause.message
  | .unwritable path cause => "failed to write " ++ path ++ ": " ++ cause.message
  | .reviewText fault => "failed to decode review: " ++ fault.message
  | .review cause => cause.message

inductive ExitCode where
  | success
  | failure
  | usage
deriving DecidableEq, Repr

def ExitCode.number : ExitCode → UInt32
  | .success => 0
  | .failure => 1
  | .usage => 2

/-! ## The table of fields -/

/-- A text filled up with blanks to a width. -/
def padded (width : Nat) (text : String) : String :=
  text ++ String.ofList (List.replicate (width - text.length) ' ')

/-- The lines of the table, in columns as wide as their widest entry. -/
def fieldTableLines (mappings : List FieldMapping) : List String :=
  let width (least : Nat) (column : FieldMapping → Option String) : Nat :=
    ((mappings.filterMap column).map String.length).foldl max least
  let hubWidth := width 3 FieldMapping.hub?
  let spokeWidth := width 5 FieldMapping.spoke?
  let line (hub spoke category note : String) : String :=
    padded hubWidth hub ++ "  " ++ padded spokeWidth spoke ++ "  " ++ padded 10 category ++ "  " ++
      note
  line "HUB" "SPOKE" "CLASS" "NOTE" :: mappings.map fun mapping =>
    Text.trimEnd (line (mapping.hub?.getD "-") (mapping.spoke?.getD "-") mapping.category.name
      (mapping.note?.getD ""))

def TableFormat.write (format : TableFormat) (mappings : List FieldMapping) : String :=
  match format with
  | .text => "\n".intercalate (fieldTableLines mappings)
  | .json => (Json.arr (mappings.map FieldMapping.row)).indented

/-! ## Commands -/

variable {m : Type → Type} [Monad m] [Workplace m]

/-- A result a command cannot go on without. -/
def require {α ε : Type} (cause : ε → CommandError) (result : Except ε α) :
    ExceptT CommandError m α :=
  ExceptT.mk (pure (result.mapError cause))

/-- A step a command cannot go on without. -/
def attempt {α ε : Type} (cause : ε → CommandError) (step : m (Except ε α)) :
    ExceptT CommandError m α := do
  require cause (← ExceptT.lift step)

/-- The version a target names, bare or with its group, or else the name that names none. -/
def targetVersion (given : String) : Except String ApiVersion :=
  let name := Text.trim given
  match ApiVersion.ofName? name <|> ApiVersion.ofShort? name with
  | some version => .ok version
  | none => .error name

/-- The configuration that commands run under. -/
def loadConfiguration (configPath : Option String) : ExceptT CommandError m Configuration :=
  attempt .configuration (Configuration.loadOrDefault configPath)

def printLine (line : String) : ExceptT CommandError m Unit :=
  ExceptT.lift (Workplace.printLine line)

namespace Command

variable [Json.FloatReading]

/-- Converts a document. -/
def runConvert (configPath : Option String) (command : ConvertCommand) :
    ExceptT CommandError m ExitCode := do
  let configuration ← loadConfiguration configPath
  let converter ← require .defect configuration.conversion.converter
  let target ← require .target (targetVersion command.target)
  let document ← attempt .document (readDocument command.input command.inputFormat)
  let policy ← require .policy (AnyPolicy.ofJson document)
  let converted ← require .conversion (converter.convert policy target)
  let text := command.outputFormat.write converted.policy.toJson
  match command.output with
  | some path =>
      attempt (.unwritable path) (Workplace.writeFile path text)
      printLine ("wrote " ++ path)
  | none => printLine (Text.trimEnd text)
  return .success

/-- Validates a document. -/
def runValidate (configPath : Option String) (input : String) (format : Option DocumentFormat) :
    ExceptT CommandError m ExitCode := do
  let configuration ← loadConfiguration configPath
  let log ← attempt .auditLog (AuditLog.ofSettings configuration.audit)
  let document ← attempt .document (readDocument input format)
  let policy ← require .policy (AnyPolicy.ofJson document)
  let findings := (policy.findings configuration.validation.scope).map Finding.text
  ExceptT.lift <| log.record (.validation {
    version := policy.version.name
    name := policy.metadata.name
    namespaceName := policy.metadata.namespaceName
    findings })
  findings.forM printLine
  if findings.isEmpty then
    printLine ("policy " ++ policy.metadata.name ++ " is valid")
    return .success
  else return .failure

/-- Answers a review. -/
def runReview (configPath : Option String) (input : String) : ExceptT CommandError m ExitCode := do
  let configuration ← loadConfiguration configPath
  let log ← attempt .auditLog (AuditLog.ofSettings configuration.audit)
  let handler ← require .defect (ReviewHandler.ofConfiguration configuration)
  let octets ← attempt .document (readOctets input maxReviewSize)
  let review ← require .reviewText (ConversionReview.ofOctets octets)
  let answer ← attempt .review (handler.answer (fun event => log.record (.review event)) review)
  printLine answer.document.indented
  return if answer.response.any fun response => response.result.isSuccess then .success
    else .failure

/-- Runs a command. -/
def run (configPath : Option String) : Command → ExceptT CommandError m ExitCode
  | .convert command => runConvert configPath command
  | .validate input format => runValidate configPath input format
  | .review input => runReview configPath input
  | .fields format manualOnly => do
      printLine (format.write (if manualOnly then manualFieldMappings else fieldMappings))
      return .success
  | .checkConfiguration => do
      let _ ← attempt .configuration (Configuration.load configPath)
      printLine "config is valid"
      return .success

end Command

/-- The name and the version of the program. -/
def programVersion : String := "policyctl 0.1.0"

/-- Runs what arguments ask for. -/
def runArguments [Json.FloatReading] (arguments : List String) : m ExitCode := do
  match Request.ofArguments? arguments with
  | none => do
      Workplace.reportLine "error: the arguments make no sense"
      return .usage
  | some .version => do
      Workplace.printLine programVersion
      return .success
  | some (.run configPath command) => do
      match ← (command.run configPath).run with
      | .ok code => return code
      | .error e => do
          Workplace.reportLine e.message
          return .failure

end HubSpoke
