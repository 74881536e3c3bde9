import HubSpoke.FieldPath

/-!
# Findings

A finding is a defect and where it stands.  A defect says what is wrong; its category and its wording
follow from it.
-/

namespace HubSpoke

/-- The categories of defects. -/
inductive DefectCategory where
  | invalid
  | required
  | duplicate
  | forbidden
  | notSupported
deriving DecidableEq, Repr

namespace DefectCategory

def name : DefectCategory → String
  | .invalid => "invalid"
  | .required => "required"
  | .duplicate => "duplicate"
  | .forbidden => "forbidden"
  | .notSupported => "not_supported"

/-- The label of a category in messages. -/
def label : DefectCategory → String
  | .invalid => "Invalid value"
  | .required => "Required value"
  | .duplicate => "Duplicate value"
  | .forbidden => "Forbidden"
  | .notSupported => "Unsupported value"

end DefectCategory

/-- What can be wrong with a policy. -/
inductive Defect where
  -- The policy.
  | nameMissing
  | namespaceMissing
  | allProcessingDisabled
  | timeoutOutOfRange
  | noRules
  -- Rules.
  | ruleNameMissing
  | ruleNameTooLong
  | ruleNameRepeated (name : String)
  | ruleDoesNothing
  | ruleMatchesNothing
  -- Match and exclude blocks.
  | anyAndAll
  | inlineWithLists
  | emptyFilter
  | userInfoInBackground (field : String)
  | subjectKindUnknown
  | subjectNameMissing
  | subjectNamespaceMissing
  | nameAndNames
  | kindMalformed (selector : String)
  | kindClusterScoped (kind : String)
  | namespaceForeign (own : String)
  | annotationKeyBlank
  | labelKeyBlank
  | requirementKeyBlank
  | requirementValuesMissing (operator : String)
  | requirementValuesGiven (operator : String)
  | requirementOperatorUnknown
  -- Image verifications.
  | mutateDigestInAudit
  | imageReferenceMissing
  | attestorEntriesMissing
  | attestorCountOutOfRange
  | attestorUndescribed
  | notaryKeysAndKeyless
  | notaryKeyless
  | notaryKeys
deriving DecidableEq, Repr

namespace Defect

/-- The longest name of a rule, in octets. -/
def maxRuleName : Nat := 63

/-- The kinds a subject may have. -/
def subjectKinds : List String := ["User", "Group", "ServiceAccount"]

/-- The operators a label requirement may have. -/
def selectorOperators : List String := ["In", "NotIn", "Exists", "DoesNotExist"]

/-- The category of a defect. -/
def category : Defect → DefectCategory
  | .nameMissing | .namespaceMissing | .noRules | .ruleNameMissing | .ruleDoesNothing
  | .ruleMatchesNothing | .emptyFilter | .subjectNameMissing | .subjectNamespaceMissing
  | .requirementKeyBlank | .requirementValuesMissing _ | .imageReferenceMissing
  | .attestorEntriesMissing | .attestorUndescribed => .required
  | .allProcessingDisabled | .timeoutOutOfRange | .ruleNameTooLong | .anyAndAll
  | .inlineWithLists | .nameAndNames | .kindMalformed _ | .annotationKeyBlank | .labelKeyBlank
  | .mutateDigestInAudit | .attestorCountOutOfRange | .notaryKeysAndKeyless | .notaryKeyless
  | .notaryKeys => .invalid
  | .ruleNameRepeated _ => .duplicate
  | .userInfoInBackground _ | .kindClusterScoped _ | .namespaceForeign _
  | .requirementValuesGiven _ => .forbidden
  | .subjectKindUnknown | .requirementOperatorUnknown => .notSupported

def message : Defect → String
  | .nameMissing => "name is required"
  | .namespaceMissing => "namespace is required for a namespaced policy"
  | .allProcessingDisabled => "admission and background processing cannot both be disabled"
  | .timeoutOutOfRange => "the timeout value must be between 1 and 30 seconds"
  | .noRules => "a policy must contain at least one rule"
  | .ruleNameMissing => "rule name is required"
  | .ruleNameTooLong => "rule name must be at most " ++ toString maxRuleName ++ " characters"
  | .ruleNameRepeated name => "Duplicate rule name: '" ++ name ++ "'"
  | .ruleDoesNothing => "a rule must define one of validate, mutate, generate or verifyImages"
  | .ruleMatchesNothing => "match must select at least one resource filter"
  | .anyAndAll => "Can't specify any and all together"
  | .inlineWithLists => "Can't specify any/all together with inline resources or user info"
  | .emptyFilter => "at least one element must be specified in a filter block"
  | .userInfoInBackground field =>
      field ++ " is not allowed when background processing is enabled"
  | .subjectKindUnknown => "subject kind must be one of " ++ ", ".intercalate subjectKinds
  | .subjectNameMissing => "subject name is required"
  | .subjectNamespaceMissing => "namespace is required for ServiceAccount subjects"
  | .nameAndNames => "name and names cannot be specified together"
  | .kindMalformed selector =>
      "kind selector '" ++ selector ++ "' must have 1 to 4 non-empty segments"
  | .kindClusterScoped kind =>
      "cluster-scoped kind " ++ kind ++ " cannot be matched by a namespaced policy"
  | .namespaceForeign own =>
      "a namespaced policy can only match resources in namespace " ++ own
  | .annotationKeyBlank => "annotation keys must be non-empty"
  | .labelKeyBlank => "label keys must be non-empty"
  | .requirementKeyBlank => "key is required"
  | .requirementValuesMissing operator => "values must be non-empty for operator " ++ operator
  | .requirementValuesGiven operator => "values must be empty for operator " ++ operator
  | .requirementOperatorUnknown =>
      "operator must be one of " ++ ", ".intercalate selectorOperators
  | .mutateDigestInAudit => "mutateDigest must be set to false for 'Audit' failure action"
  | .imageReferenceMissing => "An image reference is required"
  | .attestorEntriesMissing => "at least one attestor entry is required"
  | .attestorCountOutOfRange => "count must be between 1 and the number of entries"
  | .attestorUndescribed => "one of keys, certificates, keyless or attestor is required"
  | .notaryKeysAndKeyless => "Keyless and Keys fields are not allowed for type notary"
  | .notaryKeyless => "Keyless field is not allowed for type notary"
  | .notaryKeys => "Keys field is not allowed for type notary"

end Defect

/-- A defect and where it stands. -/
structure Finding where
  path : FieldPath
  defect : Defect
deriving DecidableEq, Repr

namespace Finding

/-- The written form of a finding. -/
def text (finding : Finding) : String :=
  finding.path.text ++ ": " ++ finding.defect.category.label ++ ": " ++ finding.defect.message

/-- The finding that a requirement is not met. -/
def require (met : Bool) (path : FieldPath) (defect : Defect) : List Finding :=
  if met then [] else [⟨path, defect⟩]

end Finding

end HubSpoke
