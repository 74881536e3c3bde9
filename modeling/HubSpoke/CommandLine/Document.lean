import HubSpoke.CommandLine.Arguments
import HubSpoke.Json.Octets
import HubSpoke.Workplace.Basic
import HubSpoke.Yaml.Reader
import HubSpoke.Yaml.Writer

/-!
# Documents in files

A document is read from a file of limited size, in the format asked for or else in the one its
name ends in.
-/

namespace HubSpoke

/-- Why a document is not read. -/
inductive DocumentError where
  | unreadable (path : String) (cause : FileError)
  | tooLarge (path : String) (size limit : Nat)
  | notText (path : String) (fault : Utf8.Fault)
  | notJson
  | notYaml (fault : Yaml.Fault)
deriving DecidableEq, Repr

def DocumentError.message : DocumentError → String
  | .unreadable path cause => "failed to read " ++ path ++ ": " ++ cause.message
  | .tooLarge path size limit =>
      path ++ " is " ++ toString size ++ " bytes, exceeding the " ++ toString limit ++
        " byte limit"
  | .notText path fault => path ++ " is not utf-8: " ++ fault.message
  | .notJson => "invalid JSON document: <json>"
  | .notYaml fault => "invalid YAML document: " ++ fault.message

/-- The part of a path's last name after its last point, if there is something before the point. -/
def extension? (path : String) : Option String := do
  let name ← ((Text.segments '/' path).filter fun part => part != "" && part != ".").getLast?
  let parts := Text.segments '.' name
  if name = ".." ∨ parts.length < 2 ∨ (parts.length = 2 ∧ parts.head? = some "") then none
  parts.getLast?

/-- The format a path ends in. -/
def DocumentFormat.ofPath (path : String) : DocumentFormat :=
  match (extension? path).map fun extension => extension.map Char.toLower with
  | some "yaml" | some "yml" => .yaml
  | _ => .json

/-- The document that octets hold in a format. -/
def DocumentFormat.parse [Json.FloatReading] (format : DocumentFormat) (path : String)
    (octets : ByteArray) : Except DocumentError Json := do
  let text ← (Utf8.decode octets).mapError (.notText path)
  match format with
  | .json => match Json.parse? text with
      | some document => .ok document
      | none => .error .notJson
  | .yaml => (Yaml.parse text).mapError .notYaml

/-- The text of a document in a format. -/
def DocumentFormat.write : DocumentFormat → Json → String
  | .json, document => document.indented
  | .yaml, document => Yaml.write document

variable {m : Type → Type} [Monad m] [Workplace m]

/-- The octets of a file that holds no more than `limit` of them. -/
def readOctets (path : String) (limit : Nat) : m (Except DocumentError ByteArray) := do
  match ← Workplace.readFile path with
  | .error cause => return .error (.unreadable path cause)
  | .ok octets =>
      if limit < octets.size then return .error (.tooLarge path octets.size limit)
      else return .ok octets

/-- The greatest size of a policy document, in octets. -/
def maxPolicySize : Nat := 4 * 1024 * 1024

/-- The greatest size of a review, in octets. -/
def maxReviewSize : Nat := 64 * 1024 * 1024

/-- The document in a file. -/
def readDocument [Json.FloatReading] (path : String) (format : Option DocumentFormat) :
    m (Except DocumentError Json) := do
  let octets ← readOctets path maxPolicySize
  return octets.bind ((format.getD (.ofPath path)).parse path)

end HubSpoke
