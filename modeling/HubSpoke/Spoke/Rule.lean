import HubSpoke.Spoke.Match
import HubSpoke.Policy.Attestor
import HubSpoke.Policy.Condition
import HubSpoke.Policy.Resource

/-!
# Rules of the spoke

Conditions of the spoke are typed.  Each rule has a failure action, overrides and triggers of its
own.
-/

namespace HubSpoke.Spoke

/-! ## Validation -/

/-- A block that rejects requests. -/
structure Deny where
  conditions : Option ConditionBlock := none
deriving DecidableEq

namespace Deny

instance : Unsigned Deny := ⟨fun d => { conditions := unsigned d.conditions }⟩

def codec : Codec Deny :=
  .record "Deny" <| Deny.mk <$> .optional "conditions" ConditionBlock.codec Deny.conditions

end Deny

/-- A validation block. -/
structure Validation where
  /-- The failure action of the rule. -/
  action : Option FailureAction := none
  /-- The failure actions of the rule in some namespaces. -/
  overrides : List ActionOverride := []
  message : String := ""
  manifests : Option Json := none
  forEach : List Json := []
  pattern : Option Json := none
  anyPattern : Option Json := none
  deny : Option Deny := none
  podSecurity : Option Json := none
  cel : Option Json := none
deriving DecidableEq

namespace Validation

instance : Unsigned Validation := ⟨fun v => { v with
  manifests := unsigned v.manifests
  forEach := unsigned v.forEach
  pattern := unsigned v.pattern
  anyPattern := unsigned v.anyPattern
  deny := unsigned v.deny
  podSecurity := unsigned v.podSecurity
  cel := unsigned v.cel }⟩

def codec : Codec Validation :=
  .record "Validation" <|
    Validation.mk
      <$> .optional "validationFailureAction" FailureAction.codec Validation.action
      <*> .list "validationFailureActionOverrides" ActionOverride.codec Validation.overrides
      <*> .text "message" Validation.message
      <*> .optional "manifests" .json Validation.manifests
      <*> .list "foreach" .json Validation.forEach
      <*> .optional "pattern" .json Validation.pattern
      <*> .optional "anyPattern" .json Validation.anyPattern
      <*> .optional "deny" Deny.codec Validation.deny
      <*> .optional "podSecurity" .json Validation.podSecurity
      <*> .optional "cel" .json Validation.cel

end Validation

/-! ## Mutation -/

/-- An existing resource to mutate. -/
structure MutationTarget where
  resource : ResourceReference := {}
  context : List Json := []
  preconditions : Option ConditionBlock := none
deriving DecidableEq

namespace MutationTarget

instance : Unsigned MutationTarget := ⟨fun t => { t with
  context := unsigned t.context
  preconditions := unsigned t.preconditions }⟩

def codec : Codec MutationTarget :=
  .record "TargetResourceSpec" <|
    MutationTarget.mk
      <$> .spread ResourceReference.fields MutationTarget.resource
      <*> .list "context" .json MutationTarget.context
      <*> .optional "preconditions" ConditionBlock.codec MutationTarget.preconditions

end MutationTarget

/-- A mutation block. -/
structure Mutation where
  /-- Existing resources are mutated when the policy changes. -/
  mutateExisting : Bool := false
  targets : List MutationTarget := []
  patchStrategicMerge : Option Json := none
  patchesJson6902 : String := ""
  forEach : List Json := []
deriving DecidableEq

namespace Mutation

instance : Unsigned Mutation := ⟨fun m => { m with
  targets := unsigned m.targets
  patchStrategicMerge := unsigned m.patchStrategicMerge
  forEach := unsigned m.forEach }⟩

def codec : Codec Mutation :=
  .record "Mutation" <|
    Mutation.mk
      <$> .flag "mutateExistingOnPolicyUpdate" Mutation.mutateExisting
      <*> .list "targets" MutationTarget.codec Mutation.targets
      <*> .optional "patchStrategicMerge" .json Mutation.patchStrategicMerge
      <*> .text "patchesJson6902" Mutation.patchesJson6902
      <*> .list "foreach" .json Mutation.forEach

end Mutation

/-! ## Generation -/

/-- A generation block. -/
structure Generation where
  /-- Resources are generated for triggers that exist when the policy is created. -/
  generateExisting : Bool := false
  resource : ResourceReference := {}
  synchronize : Bool := false
  orphanDownstreamOnPolicyDelete : Bool := false
  data : Option Json := none
  clone : Option CloneSource := none
  cloneList : Option CloneList := none
deriving DecidableEq

namespace Generation

instance : Unsigned Generation := ⟨fun g => { g with data := unsigned g.data }⟩

def codec : Codec Generation :=
  .record "Generation" <|
    Generation.mk
      <$> .flag "generateExisting" Generation.generateExisting
      <*> .spread ResourceReference.fields Generation.resource
      <*> .flag "synchronize" Generation.synchronize
      <*> .flag "orphanDownstreamOnPolicyDelete" Generation.orphanDownstreamOnPolicyDelete
      <*> .optional "data" .json Generation.data
      <*> .optional "clone" CloneSource.codec Generation.clone
      <*> .optional "cloneList" CloneList.codec Generation.cloneList

end Generation

/-! ## Image verification -/

/-- A check of what was attested of an image. -/
structure Attestation where
  type : String := ""
  attestors : List AttestorSet := []
  conditions : List ConditionBlock := []
deriving DecidableEq

namespace Attestation

instance : Unsigned Attestation := ⟨fun a => { a with
  attestors := unsigned a.attestors
  conditions := unsigned a.conditions }⟩

def codec : Codec Attestation :=
  .record "Attestation" <|
    Attestation.mk
      <$> .text "type" Attestation.type
      <*> .list "attestors" AttestorSet.codec Attestation.attestors
      <*> .list "conditions" ConditionBlock.codec Attestation.conditions

end Attestation

/-- A check of the signatures of images. -/
structure ImageVerification where
  /-- The signature format; unset stands for cosign. -/
  type : Option SignatureFormat := none
  imageReferences : List String := []
  skipImageReferences : List String := []
  attestors : List AttestorSet := []
  attestations : List Attestation := []
  repository : String := ""
  mutateDigest : Bool := true
  verifyDigest : Bool := true
  required : Bool := true
  imageRegistryCredentials : Option RegistryCredentials := none
  useCache : Bool := true
deriving DecidableEq

namespace ImageVerification

instance : Unsigned ImageVerification := ⟨fun v => { v with
  attestors := unsigned v.attestors
  attestations := unsigned v.attestations }⟩

def codec : Codec ImageVerification :=
  .record "ImageVerification" <|
    ImageVerification.mk
      <$> .optional "type" SignatureFormat.codec ImageVerification.type
      <*> .list "imageReferences" .text ImageVerification.imageReferences
      <*> .list "skipImageReferences" .text ImageVerification.skipImageReferences
      <*> .list "attestors" AttestorSet.codec ImageVerification.attestors
      <*> .list "attestations" Attestation.codec ImageVerification.attestations
      <*> .text "repository" ImageVerification.repository
      <*> .shown "mutateDigest" .flag true ImageVerification.mutateDigest
      <*> .shown "verifyDigest" .flag true ImageVerification.verifyDigest
      <*> .shown "required" .flag true ImageVerification.required
      <*> .optional "imageRegistryCredentials" RegistryCredentials.codec
            ImageVerification.imageRegistryCredentials
      <*> .shown "useCache" .flag true ImageVerification.useCache

end ImageVerification

/-! ## Rules -/

structure Rule where
  name : String := ""
  matchBlock : MatchBlock := {}
  exclude : Option MatchBlock := none
  context : List Json := []
  preconditions : Option ConditionBlock := none
  validation : Option Validation := none
  mutation : Option Mutation := none
  generation : Option Generation := none
  verifyImages : List ImageVerification := []
deriving DecidableEq

namespace Rule

instance : Unsigned Rule := ⟨fun r => { r with
  context := unsigned r.context
  preconditions := unsigned r.preconditions
  validation := unsigned r.validation
  mutation := unsigned r.mutation
  generation := unsigned r.generation
  verifyImages := unsigned r.verifyImages }⟩

def codec : Codec Rule :=
  .record "Rule" <|
    Rule.mk
      <$> .shown "name" .text "" Rule.name
      <*> .shown "match" MatchBlock.codec {} Rule.matchBlock
      <*> .optional "exclude" MatchBlock.codec Rule.exclude
      <*> .list "context" .json Rule.context
      <*> .optional "preconditions" ConditionBlock.codec Rule.preconditions
      <*> .optional "validate" Validation.codec Rule.validation
      <*> .optional "mutate" Mutation.codec Rule.mutation
      <*> .optional "generate" Generation.codec Rule.generation
      <*> .list "verifyImages" ImageVerification.codec Rule.verifyImages

end Rule

end HubSpoke.Spoke
