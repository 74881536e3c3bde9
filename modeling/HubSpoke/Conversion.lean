import HubSpoke.Stash.Overlay

/-!
# Converting policies

Each direction detaches the stash, maps the spec, lays over it what the stash holds for the target
version, and stashes the source spec if mapping the result back would not give the source again.
So a policy that converts without loss carries no stash.

A stashed hub also holds the stash the hub itself carried.  A spoke that is exactly what its
stashed hub converts to gives that hub back unchanged.
-/

namespace HubSpoke

/-! ## Errors -/

/-- Why a policy does not convert. -/
inductive MappingError where
  | payload (fault : PayloadFault)
  | conditions (cause : MalformedConditions)
deriving DecidableEq, Repr

/-- The error of a stashed policy, as a fault of the payload that holds it. -/
def MappingError.toFault : MappingError → PayloadFault
  | .payload fault => fault
  | .conditions cause => .conditions cause

/-- Why a document is not converted. -/
inductive ConversionError where
  | unsupportedVersion (given : String)
  | schema (cause : SchemaError)
  | mapping (cause : MappingError)
deriving DecidableEq

namespace ConversionError

def message : ConversionError → String
  | .unsupportedVersion given => unsupportedVersionMessage given
  | .schema cause => cause.message
  | .mapping (.payload fault) => fault.message
  | .mapping (.conditions cause) => cause.message

/-- The label of an error in audit records. -/
def label : ConversionError → String
  | .unsupportedVersion _ | .schema (.unsupportedVersion _) => "unsupported_version"
  | .schema .missingVersion | .schema (.malformed ..) => "malformed_object"
  | .mapping (.payload _) => "malformed_payload"
  | .mapping (.conditions _) => "malformed_conditions"

end ConversionError

/-! ## The two directions -/

variable [Json.FloatReading]

/-- A converted policy. -/
structure Converted (π : Type) where
  policy : π
  /-- A stash made for the target version was laid over. -/
  restored : Bool
  /-- The source spec was stashed. -/
  stashed : Bool
deriving DecidableEq

/-- Maps a spoke to the hub, given its metadata without the stash and the stashed hub spec. -/
def Spoke.Policy.mapToHub (policy : Spoke.Policy) (metadata : Metadata)
    (saved : Option Hub.Spec) : Except MappingError (Converted Hub.Policy) := do
  let spec ← match saved with
    | some restored => (policy.spec.toHub.overlay restored policy.spec).mapError .payload
    | none => .ok policy.spec.toHub
  -- what mapping the hub again would not give goes into a stash
  let again ← spec.toSpoke.mapError .conditions
  let stashed := !sameData again policy.spec
  let metadata :=
    if stashed then metadata.stash policy.kind { spec := policy.spec } else metadata
  return {
    policy := { kind := policy.kind, metadata, spec, status := policy.status }
    restored := saved.isSome
    stashed }

/-- Converts a hub to the spoke. -/
def Hub.Policy.convert (policy : Hub.Policy) : Except MappingError (Converted Spoke.Policy) := do
  let metadata := policy.metadata.withoutPayload
  let restored : Option (Stashed Spoke.Spec) ← policy.metadata.stashed.mapError .payload
  let fresh ← policy.spec.toSpoke.mapError .conditions
  let spec := match restored with
    | some saved => fresh.overlay saved.spec policy.spec
    | none => fresh
  let converted : Spoke.Policy := { kind := policy.kind, metadata, spec, status := policy.status }
  -- whether anything is lost is asked of the way back without a stash
  let plain ← converted.mapToHub metadata none
  let stashed := !sameData plain.policy policy
  let carried : Stashed Hub.Spec :=
    { spec := policy.spec, sourceAnnotation := policy.metadata.payload? }
  return {
    policy := if stashed then
        { converted with metadata := metadata.stash policy.kind carried }
      else converted
    restored := restored.isSome
    stashed }

/-- The hub that a spoke's stash describes: the stashed spec under the spoke's own metadata, with
the annotation that hub carried. -/
def Spoke.Policy.stashedHub (policy : Spoke.Policy) (saved : Stashed Hub.Spec) : Hub.Policy :=
  let metadata := policy.metadata.withoutPayload
  { kind := policy.kind
    metadata := match saved.sourceAnnotation with
      | some carried => { metadata with
          annotations := metadata.annotations.insert Stashed.annotation carried }
      | none => metadata
    spec := saved.spec
    status := policy.status }

/-- The stashed hub, if the spoke is exactly what it converts to. -/
def Spoke.Policy.unedited? (policy : Spoke.Policy) (saved : Stashed Hub.Spec) :
    Except PayloadFault (Option Hub.Policy) := do
  let former := policy.stashedHub saved
  let converted ← former.convert.mapError MappingError.toFault
  return if sameData converted.policy policy then some former else none

/-- Converts a spoke to the hub. -/
def Spoke.Policy.convert (policy : Spoke.Policy) :
    Except MappingError (Converted Hub.Policy) := do
  let metadata := policy.metadata.withoutPayload
  let restored : Option (Stashed Hub.Spec) ← policy.metadata.stashed.mapError .payload
  match restored with
  | none => policy.mapToHub metadata none
  | some saved =>
      match ← (policy.unedited? saved).mapError .payload with
      | some former => return { policy := former, restored := true, stashed := false }
      | none => policy.mapToHub metadata (some saved.spec)

/-! ## Served versions -/

/-- A converter between the versions it serves. -/
structure Converter where
  served : List ApiVersion
deriving DecidableEq

namespace Converter

/-- The converter that serves the given versions. -/
def ofServed (versions : List ApiVersion) : Converter :=
  ⟨ApiVersion.all.filter fun version => versions.contains version⟩

/-- The converter that serves both versions. -/
def both : Converter := ofServed ApiVersion.all

/-- The version is served. -/
def serves (converter : Converter) (version : ApiVersion) : Bool :=
  converter.served.contains version

/-- The served version of a name. -/
def resolve (converter : Converter) (name : String) : Except ConversionError ApiVersion :=
  match (ApiVersion.ofName? name).filter converter.serves with
  | some version => .ok version
  | none => .error (.unsupportedVersion name)

/-- Converts a policy to a version; to its own version it goes unchanged. -/
def convert (converter : Converter) (source : AnyPolicy) (desired : ApiVersion) :
    Except ConversionError (Converted AnyPolicy) :=
  if !converter.serves source.version then
    .error (.unsupportedVersion source.version.name)
  else if !converter.serves desired then .error (.unsupportedVersion desired.name)
  else match source, desired with
    | .hub _, .v1 | .spoke _, .v2 =>
        .ok { policy := source, restored := false, stashed := false }
    | .hub policy, .v2 =>
        (policy.convert.mapError .mapping).map fun result =>
          { policy := .spoke result.policy, restored := result.restored, stashed := result.stashed }
    | .spoke policy, .v1 =>
        (policy.convert.mapError .mapping).map fun result =>
          { policy := .hub result.policy, restored := result.restored, stashed := result.stashed }

/-- Converts a document to the version of a name.  The version is looked up first. -/
def convertDocument (converter : Converter) (document : Json) (desired : String) :
    Except ConversionError (Converted AnyPolicy) := do
  let version ← converter.resolve desired
  let source ← (AnyPolicy.ofJson document).mapError .schema
  converter.convert source version

end Converter

end HubSpoke
