import HubSpoke.Conversion
import HubSpoke.Validation.Scope

/-!
# Configuration

A configuration has a section on conversion, one on validation and one on the audit log.  Every
setting has a default.  `Configuration.check` tells the first setting that makes no sense.
-/

namespace HubSpoke

/-! ## Sections -/

/-- Which versions are served, and how much at once. -/
structure ConversionSettings where
  /-- Versions, bare or with their group. -/
  servedVersions : List String := ApiVersion.all.map ApiVersion.short
  maxBatchObjects : UInt64 := 256
  maxObjectBytes : UInt64 := 3 * 1024 * 1024
deriving DecidableEq

def ConversionSettings.codec : Codec ConversionSettings :=
  let absent : ConversionSettings := {}
  .record "ConversionConfig" <|
    ConversionSettings.mk
      <$> .shown "served_versions" (.list .text) absent.servedVersions
            ConversionSettings.servedVersions
      <*> .shown "max_batch_objects" .size absent.maxBatchObjects
            ConversionSettings.maxBatchObjects
      <*> .shown "max_object_bytes" .size absent.maxObjectBytes ConversionSettings.maxObjectBytes

/-- What policies are validated against. -/
structure ValidationSettings where
  clusterScopedKinds : List String := ResourceScope.builtinKinds
deriving DecidableEq

def ValidationSettings.codec : Codec ValidationSettings :=
  .record "ValidationConfig" <|
    ValidationSettings.mk
      <$> .shown "cluster_scoped_kinds" (.list .text) ResourceScope.builtinKinds
            ValidationSettings.clusterScopedKinds

/-- Where audit events go. -/
inductive AuditSinkKind where
  | none
  | stderr
  | file
deriving DecidableEq, Repr

def AuditSinkKind.codec : Codec AuditSinkKind :=
  .choice [("none", .none), ("stderr", .stderr), ("file", .file)] fun
    | .none => "none"
    | .stderr => "stderr"
    | .file => "file"

/-- The audit log. -/
structure AuditSettings where
  sink : AuditSinkKind := .none
  path : Option String := none
deriving DecidableEq

def AuditSettings.codec : Codec AuditSettings :=
  .record "AuditConfig" <|
    AuditSettings.mk
      <$> .shown "sink" AuditSinkKind.codec .none AuditSettings.sink
      <*> .shown "path" (.optional .text) none AuditSettings.path

structure Configuration where
  conversion : ConversionSettings := {}
  validation : ValidationSettings := {}
  audit : AuditSettings := {}
deriving DecidableEq

def Configuration.codec : Codec Configuration :=
  .record "PolicyConversionConfig" <|
    Configuration.mk
      <$> .shown "conversion" ConversionSettings.codec {} Configuration.conversion
      <*> .shown "validation" ValidationSettings.codec {} Configuration.validation
      <*> .shown "audit" AuditSettings.codec {} Configuration.audit

/-! ## Defects -/

/-- What makes no sense in a configuration, or about the file that holds it. -/
inductive ConfigDefect where
  | versionUnknown (given : String)
  | hubNotServed
  | batchLimitOutOfRange
  | objectLimitOutOfRange
  | noKinds
  | tooManyKinds
  | kindInvalid (given : String)
  | kindRepeated (kind : String)
  | auditPathMissing
  | auditPathUnused
  | auditPathEmpty
  | auditPathTooLong
  | auditPathPartTooLong
  | filePathTooLong
  | filePathPartTooLong
  | fileTooLarge
  | fileNotText
deriving DecidableEq, Repr

/-- The most objects a batch limit allows. -/
def maxBatchLimit : Nat := 4096

/-- The bounds of the limit on an object's size. -/
def objectLimits : Nat × Nat := (1024, 16 * 1024 * 1024)

/-- The most kinds a configuration lists. -/
def maxKinds : Nat := 1024

/-- The longest path, in octets. -/
def maxPathLength : Nat := 4096

/-- The longest part of a path, in octets. -/
def maxPathPartLength : Nat := 255

def ConfigDefect.message : ConfigDefect → String
  | .versionUnknown given =>
      "conversion.served_versions contains unknown version: " ++ given
  | .hubNotServed => "conversion.served_versions must include the storage version v1"
  | .batchLimitOutOfRange =>
      "conversion.max_batch_objects must be between 1 and " ++ toString maxBatchLimit
  | .objectLimitOutOfRange =>
      "conversion.max_object_bytes must be between " ++ toString objectLimits.1 ++ " and " ++
        toString objectLimits.2
  | .noKinds => "validation.cluster_scoped_kinds must be non-empty"
  | .tooManyKinds =>
      "validation.cluster_scoped_kinds exceeds " ++ toString maxKinds ++ " entries"
  | .kindInvalid given => "validation.cluster_scoped_kinds contains invalid kind: " ++ given
  | .kindRepeated kind => "validation.cluster_scoped_kinds contains duplicate kind: " ++ kind
  | .auditPathMissing => "audit.path is required for the file sink"
  | .auditPathUnused => "audit.path is only valid for the file sink"
  | .auditPathEmpty => "audit.path must be non-empty"
  | .auditPathTooLong => "audit.path exceeds max length"
  | .auditPathPartTooLong => "audit.path path component too long"
  | .filePathTooLong => "config path exceeds max length"
  | .filePathPartTooLong => "config path component too long"
  | .fileTooLarge => "config file exceeds size limit"
  | .fileNotText => "config file must be utf-8"

/-! ## Checks -/

/-- Some part of a path between slashes is too long. -/
def hasLongPart (path : String) : Bool :=
  (Text.segments '/' path).any fun part => maxPathPartLength < part.utf8ByteSize

namespace ConversionSettings

/-- The version a setting names, bare or with its group. -/
def servedVersion (given : String) : Except ConfigDefect ApiVersion :=
  let name := Text.trim given
  match ApiVersion.ofName? name <|> ApiVersion.ofShort? name with
  | some version => .ok version
  | none => .error (.versionUnknown name)

/-- The served versions, each once and in order. -/
def served (s : ConversionSettings) : Except ConfigDefect (List ApiVersion) :=
  (s.servedVersions.mapM servedVersion).map fun versions => (Converter.ofServed versions).served

/-- The converter between the served versions. -/
def converter (s : ConversionSettings) : Except ConfigDefect Converter :=
  s.served.map Converter.ofServed

/-- The first defect of the section. -/
def check (s : ConversionSettings) : Except ConfigDefect Unit := do
  let versions ← s.served
  if !versions.contains .v1 then .error .hubNotServed
  else if s.maxBatchObjects = 0 ∨ maxBatchLimit < s.maxBatchObjects.toNat then
    .error .batchLimitOutOfRange
  else if s.maxObjectBytes.toNat < objectLimits.1 ∨ objectLimits.2 < s.maxObjectBytes.toNat then
    .error .objectLimitOutOfRange
  else .ok ()

end ConversionSettings

namespace ValidationSettings

/-- The scope the section describes. -/
def scope (s : ValidationSettings) : ResourceScope :=
  .ofKinds (s.clusterScopedKinds.map Text.trim)

/-- The first defect among kinds, given those before them. -/
def checkKinds (earlier : List String) : List String → Except ConfigDefect Unit
  | [] => .ok ()
  | given :: rest =>
      let kind := Text.trim given
      if kind.isEmpty ∨ kind.toList.contains '/' then .error (.kindInvalid given)
      else if earlier.contains kind then .error (.kindRepeated kind)
      else checkKinds (kind :: earlier) rest

/-- The first defect of the section. -/
def check (s : ValidationSettings) : Except ConfigDefect Unit :=
  if s.clusterScopedKinds.isEmpty then .error .noKinds
  else if maxKinds < s.clusterScopedKinds.length then .error .tooManyKinds
  else checkKinds [] s.clusterScopedKinds

end ValidationSettings

namespace AuditSettings

/-- The first defect of a path. -/
def checkPath (given : String) : Except ConfigDefect Unit :=
  let path := Text.trim given
  if path.isEmpty then .error .auditPathEmpty
  else if maxPathLength < path.utf8ByteSize then .error .auditPathTooLong
  else if hasLongPart path then .error .auditPathPartTooLong
  else .ok ()

/-- The first defect of the section. -/
def check (s : AuditSettings) : Except ConfigDefect Unit :=
  match s.sink, s.path with
  | .file, none => .error .auditPathMissing
  | .file, some path => checkPath path
  | .none, some _ | .stderr, some _ => .error .auditPathUnused
  | .none, none | .stderr, none => .ok ()

end AuditSettings

/-- The first defect of a configuration. -/
def Configuration.check (c : Configuration) : Except ConfigDefect Unit := do
  c.conversion.check
  c.validation.check
  c.audit.check

end HubSpoke
