import HubSpoke.Json.Basic

/-!
# The table of fields

How each field of one version stands to the other.  Fields that exist in one version only have no
peer, and converting them takes more than the mapping: they travel in the stash.
-/

namespace HubSpoke

/-- How a field stands to its peer. -/
inductive FieldClass where
  /-- The same shape on both sides. -/
  | compatible
  /-- The peer is computed. -/
  | computed
  /-- Once per policy in the hub, once per rule in the spoke. -/
  | routed
  | hubOnly
  | spokeOnly
deriving DecidableEq, Repr

def FieldClass.name : FieldClass → String
  | .compatible => "compatible"
  | .computed => "computed"
  | .routed => "routed"
  | .hubOnly => "hub_only"
  | .spokeOnly => "spoke_only"

/-- A field and its peer. -/
inductive FieldMapping where
  | compatible (path : String)
  | computed (hub spoke : String)
  | routed (hub spoke : String)
  | hubOnly (hub : String)
  | spokeOnly (spoke : String)
deriving DecidableEq, Repr

namespace FieldMapping

/-- The field of the hub. -/
def hub? : FieldMapping → Option String
  | .compatible path => some path
  | .computed hub _ | .routed hub _ | .hubOnly hub => some hub
  | .spokeOnly _ => none

/-- The field of the spoke. -/
def spoke? : FieldMapping → Option String
  | .compatible path => some path
  | .computed _ spoke | .routed _ spoke | .spokeOnly spoke => some spoke
  | .hubOnly _ => none

/-- The class of a mapping. -/
def category : FieldMapping → FieldClass
  | .compatible _ => .compatible
  | .computed .. => .computed
  | .routed .. => .routed
  | .hubOnly _ => .hubOnly
  | .spokeOnly _ => .spokeOnly

/-- The note on fields without a peer. -/
def note? (mapping : FieldMapping) : Option String :=
  if mapping.hub?.isSome ∧ mapping.spoke?.isSome then none
  else some "requires manual conversion: does not exist in peer type"

/-- The row of a mapping, its fields in order. -/
def row (mapping : FieldMapping) : Json :=
  .obj ([("hub", Json.textOrNull mapping.hub?), ("spoke", Json.textOrNull mapping.spoke?),
    ("class", .str mapping.category.name)] ++
    mapping.note?.toList.map fun note => ("note", .str note))

end FieldMapping

/-- All fields, in the order of the documents. -/
def fieldMappings : List FieldMapping := [
  .compatible "metadata",
  .compatible "status",
  .compatible "spec.applyRules",
  .compatible "spec.failurePolicy",
  .compatible "spec.admission",
  .compatible "spec.background",
  .compatible "spec.webhookTimeoutSeconds",
  .compatible "spec.useServerSideApply",
  .compatible "spec.webhookConfiguration",
  .routed "spec.validationFailureAction" "spec.rules[].validate.validationFailureAction",
  .routed "spec.mutateExistingOnPolicyUpdate" "spec.rules[].mutate.mutateExistingOnPolicyUpdate",
  .routed "spec.generateExisting" "spec.rules[].generate.generateExisting",
  .hubOnly "spec.validationFailureActionOverrides",
  .hubOnly "spec.generateExistingOnPolicyUpdate",
  .hubOnly "spec.schemaValidation",
  .compatible "spec.rules[].name",
  .compatible "spec.rules[].context",
  .compatible "spec.rules[].match.any",
  .compatible "spec.rules[].match.all",
  .computed "spec.rules[].match.roles" "spec.rules[].match.any[]",
  .computed "spec.rules[].match.clusterRoles" "spec.rules[].match.any[]",
  .computed "spec.rules[].match.subjects" "spec.rules[].match.any[]",
  .computed "spec.rules[].match.resources" "spec.rules[].match.any[]",
  .computed "spec.rules[].exclude" "spec.rules[].exclude",
  .computed "resources.name" "resources.names",
  .compatible "resources.kinds",
  .compatible "resources.names",
  .compatible "resources.namespaces",
  .compatible "resources.annotations",
  .compatible "resources.selector",
  .compatible "resources.namespaceSelector",
  .compatible "resources.operations",
  .computed "spec.rules[].preconditions" "spec.rules[].preconditions",
  .compatible "spec.rules[].validate.message",
  .compatible "spec.rules[].validate.manifests",
  .compatible "spec.rules[].validate.foreach",
  .compatible "spec.rules[].validate.pattern",
  .compatible "spec.rules[].validate.anyPattern",
  .computed "spec.rules[].validate.deny.conditions" "spec.rules[].validate.deny.conditions",
  .compatible "spec.rules[].validate.podSecurity",
  .compatible "spec.rules[].validate.cel",
  .spokeOnly "spec.rules[].validate.validationFailureActionOverrides",
  .computed "spec.rules[].mutate.targets" "spec.rules[].mutate.targets",
  .compatible "spec.rules[].mutate.patchStrategicMerge",
  .compatible "spec.rules[].mutate.patchesJson6902",
  .compatible "spec.rules[].mutate.foreach",
  .compatible "spec.rules[].generate",
  .compatible "spec.rules[].verifyImages[].type",
  .computed "spec.rules[].verifyImages[].image" "spec.rules[].verifyImages[].imageReferences",
  .compatible "spec.rules[].verifyImages[].imageReferences",
  .compatible "spec.rules[].verifyImages[].skipImageReferences",
  .computed "spec.rules[].verifyImages[].key" "spec.rules[].verifyImages[].attestors",
  .computed "spec.rules[].verifyImages[].roots" "spec.rules[].verifyImages[].attestors",
  .computed "spec.rules[].verifyImages[].subject" "spec.rules[].verifyImages[].attestors",
  .computed "spec.rules[].verifyImages[].issuer" "spec.rules[].verifyImages[].attestors",
  .computed "spec.rules[].verifyImages[].additionalExtensions"
    "spec.rules[].verifyImages[].attestors",
  .computed "spec.rules[].verifyImages[].annotations" "spec.rules[].verifyImages[].attestors",
  .compatible "spec.rules[].verifyImages[].attestors",
  .computed "spec.rules[].verifyImages[].attestations[].predicateType"
    "spec.rules[].verifyImages[].attestations[].type",
  .compatible "spec.rules[].verifyImages[].attestations[].type",
  .compatible "spec.rules[].verifyImages[].attestations[].attestors",
  .compatible "spec.rules[].verifyImages[].attestations[].conditions",
  .compatible "spec.rules[].verifyImages[].repository",
  .compatible "spec.rules[].verifyImages[].mutateDigest",
  .compatible "spec.rules[].verifyImages[].verifyDigest",
  .compatible "spec.rules[].verifyImages[].required",
  .compatible "spec.rules[].verifyImages[].useCache",
  .compatible "spec.rules[].verifyImages[].imageRegistryCredentials"]

/-- The fields without a peer. -/
def manualFieldMappings : List FieldMapping :=
  fieldMappings.filter fun mapping => mapping.note?.isSome

end HubSpoke
