import HubSpoke.Json.Reader
import HubSpoke.Mapping.Conditions
import HubSpoke.Policy.Document

/-!
# The stash

What a version cannot hold travels with the object, as text under one reserved annotation: the
canonical JSON of the version, the kind and the whole spec the object was converted from, and of
the annotation that object carried itself.  A stash made for another version is no error; it holds
nothing of use.
-/

namespace HubSpoke

/-- A spec type that belongs to a version. -/
class VersionedSpec (σ : Type) where
  version : ApiVersion
  codec : Codec σ

instance : VersionedSpec Hub.Spec := ⟨.v1, Hub.Spec.codec⟩

instance : VersionedSpec Spoke.Spec := ⟨.v2, Spoke.Spec.codec⟩

/-- Why a payload cannot be used. -/
inductive PayloadFault where
  | notJson
  | notAnObject
  | noVersion
  | annotationNotText
  | noSpec
  | spec (cause : Mismatch)
  /-- The stashed spec holds a raw condition block that does not type. -/
  | conditions (cause : MalformedConditions)
deriving DecidableEq, Repr

def PayloadFault.message (fault : PayloadFault) : String :=
  "malformed conversion payload: " ++ match fault with
    | .notJson => "<json>"
    | .notAnObject => "payload is not an object"
    | .noVersion => "payload has no apiVersion"
    | .annotationNotText => "payload sourceAnnotation is not a string"
    | .noSpec => "payload has no spec"
    | .spec cause => cause.message
    | .conditions cause => cause.message

/-- What a payload holds. -/
structure Stashed (σ : Type) where
  spec : σ
  /-- The reserved annotation of the object itself. -/
  sourceAnnotation : Option String := none
deriving DecidableEq

namespace Stashed

variable {σ : Type} [VersionedSpec σ]

/-- The annotation that holds the payload. -/
def annotation : String := "kyverno.io/conversion-data"

/-- The document of a payload. -/
def toJson (kind : PolicyKind) (stashed : Stashed σ) : Json :=
  Json.ofMembers ([
    ("apiVersion", .str (VersionedSpec.version σ).name),
    ("kind", PolicyKind.codec.encode kind),
    ("spec", VersionedSpec.codec.encode stashed.spec)] ++
    stashed.sourceAnnotation.toList.map fun carried => ("sourceAnnotation", .str carried))

/-- The text of a payload. -/
def encode (kind : PolicyKind) (stashed : Stashed σ) : String :=
  (stashed.toJson kind).canonical

/-- What a payload's document holds for the version of `σ`. -/
def ofJson (payload : Json) : Except PayloadFault (Option (Stashed σ)) := do
  let .obj _ := payload | .error .notAnObject
  let some version := (payload.member? "apiVersion").bind Json.str? | .error .noVersion
  if version ≠ (VersionedSpec.version σ).name then return none
  let sourceAnnotation ← match payload.member? "sourceAnnotation" with
    | none => pure none
    | some (.str carried) => pure (some carried)
    | some _ => .error .annotationNotText
  let some spec := payload.member? "spec" | .error .noSpec
  let spec ← (VersionedSpec.codec.decode spec).mapError .spec
  return some { spec, sourceAnnotation }

/-- What a payload's text holds for the version of `σ`. -/
def decode [Json.FloatReading] (payload : String) : Except PayloadFault (Option (Stashed σ)) :=
  match Json.parse? payload with
  | some document => ofJson document
  | none => .error .notJson

end Stashed

namespace Metadata

variable {σ : Type} [VersionedSpec σ]

/-- The metadata with a payload, which replaces one it may hold already. -/
def stash (m : Metadata) (kind : PolicyKind) (stashed : Stashed σ) : Metadata :=
  { m with annotations := m.annotations.insert Stashed.annotation (stashed.encode kind) }

/-- The reserved annotation. -/
def payload? (m : Metadata) : Option String :=
  m.annotations.find? Stashed.annotation

/-- The metadata without the reserved annotation. -/
def withoutPayload (m : Metadata) : Metadata :=
  { m with annotations := m.annotations.erase Stashed.annotation }

/-- What the reserved annotation holds for the version of `σ`. -/
def stashed [Json.FloatReading] (m : Metadata) : Except PayloadFault (Option (Stashed σ)) :=
  match m.payload? with
  | some payload => Stashed.decode payload
  | none => .ok none

end Metadata

end HubSpoke
