import HubSpoke.Hub.Match
import HubSpoke.Policy.Attestor
import HubSpoke.Policy.Condition
import HubSpoke.Policy.Resource

/-!
# Rules of the hub

Conditions of the hub are kept as they were written, and image verifications may hold the single
key or identity of older documents.
-/

namespace HubSpoke.Hub

/-! ## Validation -/

/-- A block that rejects requests. -/
structure Deny where
  /-- The conditions as written. -/
  conditions : Option Json := none
deriving DecidableEq

namespace Deny

instance : Unsigned Deny := ⟨fun d => { conditions := unsigned d.conditions }⟩

def codec : Codec Deny :=
  .record "Deny" <| Deny.mk <$> .optional "conditions" .json Deny.conditions

end Deny

/-- A validation block. -/
structure Validation where
  message : String := ""
  manifests : Option Json := none
  forEach : List Json := []
  pattern : Option Json := none
  anyPattern : Option Json := none
  deny : Option Deny := none
  podSecurity : Option Json := none
  cel : Option Json := none
deriving DecidableEq

namespace Validation

instance : Unsigned Validation := ⟨fun v => { v with
  manifests := unsigned v.manifests
  forEach := unsigned v.forEach
  pattern := unsigned v.pattern
  anyPattern := unsigned v.anyPattern
  deny := unsigned v.deny
  podSecurity := unsigned v.podSecurity
  cel := unsigned v.cel }⟩

def codec : Codec Validation :=
  .record "Validation" <|
    Validation.mk
      <$> .text "message" Validation.message
      <*> .optional "manifests" .json Validation.manifests
      <*> .list "foreach" .json Validation.forEach
      <*> .optional "pattern" .json Validation.pattern
      <*> .optional "anyPattern" .json Validation.anyPattern
      <*> .optional "deny" Deny.codec Validation.deny
      <*> .optional "podSecurity" .json Validation.podSecurity
      <*> .optional "cel" .json Validation.cel

end Validation

/-! ## Mutation -/

/-- An existing resource to mutate. -/
structure MutationTarget where
  resource : ResourceReference := {}
  context : List Json := []
  /-- The preconditions as written. -/
  preconditions : Option Json := none
deriving DecidableEq

namespace MutationTarget

instance : Unsigned MutationTarget := ⟨fun t => { t with
  context := unsigned t.context
  preconditions := unsigned t.preconditions }⟩

def codec : Codec MutationTarget :=
  .record "TargetResourceSpec" <|
    MutationTarget.mk
      <$> .spread ResourceReference.fields MutationTarget.resource
      <*> .list "context" .json MutationTarget.context
      <*> .optional "preconditions" .json MutationTarget.preconditions

end MutationTarget

/-- A mutation block. -/
structure Mutation where
  targets : List MutationTarget := []
  patchStrategicMerge : Option Json := none
  patchesJson6902 : String := ""
  forEach : List Json := []
deriving DecidableEq

namespace Mutation

instance : Unsigned Mutation := ⟨fun m => { m with
  targets := unsigned m.targets
  patchStrategicMerge := unsigned m.patchStrategicMerge
  forEach := unsigned m.forEach }⟩

def codec : Codec Mutation :=
  .record "Mutation" <|
    Mutation.mk
      <$> .list "targets" MutationTarget.codec Mutation.targets
      <*> .optional "patchStrategicMerge" .json Mutation.patchStrategicMerge
      <*> .text "patchesJson6902" Mutation.patchesJson6902
      <*> .list "foreach" .json Mutation.forEach

end Mutation

/-! ## Generation -/

/-- A generation block. -/
structure Generation where
  resource : ResourceReference := {}
  synchronize : Bool := false
  orphanDownstreamOnPolicyDelete : Bool := false
  data : Option Json := none
  clone : Option CloneSource := none
  cloneList : Option CloneList := none
deriving DecidableEq

namespace Generation

instance : Unsigned Generation := ⟨fun g => { g with data := unsigned g.data }⟩

def codec : Codec Generation :=
  .record "Generation" <|
    Generation.mk
      <$> .spread ResourceReference.fields Generation.resource
      <*> .flag "synchronize" Generation.synchronize
      <*> .flag "orphanDownstreamOnPolicyDelete" Generation.orphanDownstreamOnPolicyDelete
      <*> .optional "data" .json Generation.data
      <*> .optional "clone" CloneSource.codec Generation.clone
      <*> .optional "cloneList" CloneList.codec Generation.cloneList

end Generation

/-! ## Image verification -/

/-- A check of what was attested of an image. -/
structure Attestation where
  /-- The predicate type of older documents; it goes before `type` where both are set. -/
  predicateType : String := ""
  type : String := ""
  attestors : List AttestorSet := []
  conditions : List ConditionBlock := []
deriving DecidableEq

namespace Attestation

instance : Unsigned Attestation := ⟨fun a => { a with
  attestors := unsigned a.attestors
  conditions := unsigned a.conditions }⟩

def codec : Codec Attestation :=
  .record "Attestation" <|
    Attestation.mk
      <$> .text "predicateType" Attestation.predicateType
      <*> .text "type" Attestation.type
      <*> .list "attestors" AttestorSet.codec Attestation.attestors
      <*> .list "conditions" ConditionBlock.codec Attestation.conditions

end Attestation

/-- A check of the signatures of images. -/
structure ImageVerification where
  /-- The signature format; unset stands for cosign. -/
  type : Option SignatureFormat := none
  /-- A single image reference, kept for older documents. -/
  image : String := ""
  imageReferences : List String := []
  skipImageReferences : List String := []
  /-- A single public key, kept for older documents. -/
  key : String := ""
  /-- The roots of a single identity, kept for older documents. -/
  roots : String := ""
  /-- The subject of a single identity, kept for older documents. -/
  subject : String := ""
  /-- The issuer of a single identity, kept for older documents. -/
  issuer : String := ""
  /-- The extensions of a single identity, kept for older documents. -/
  additionalExtensions : KeyMap String := .empty
  attestors : List AttestorSet := []
  attestations : List Attestation := []
  /-- Signature annotations, kept for older documents. -/
  annotations : KeyMap String := .empty
  repository : String := ""
  mutateDigest : Bool := true
  verifyDigest : Bool := true
  required : Bool := true
  imageRegistryCredentials : Option RegistryCredentials := none
  useCache : Bool := true
deriving DecidableEq

namespace ImageVerification

instance : Unsigned ImageVerification := ⟨fun v => { v with
  attestors := unsigned v.attestors
  attestations := unsigned v.attestations }⟩

def codec : Codec ImageVerification :=
  .record "ImageVerification" <|
    ImageVerification.mk
      <$> .optional "type" SignatureFormat.codec ImageVerification.type
      <*> .text "image" ImageVerification.image
      <*> .list "imageReferences" .text ImageVerification.imageReferences
      <*> .list "skipImageReferences" .text ImageVerification.skipImageReferences
      <*> .text "key" ImageVerification.key
      <*> .text "roots" ImageVerification.roots
      <*> .text "subject" ImageVerification.subject
      <*> .text "issuer" ImageVerification.issuer
      <*> .textMap "additionalExtensions" ImageVerification.additionalExtensions
      <*> .list "attestors" AttestorSet.codec ImageVerification.attestors
      <*> .list "attestations" Attestation.codec ImageVerification.attestations
      <*> .textMap "annotations" ImageVerification.annotations
      <*> .text "repository" ImageVerification.repository
      <*> .shown "mutateDigest" .flag true ImageVerification.mutateDigest
      <*> .shown "verifyDigest" .flag true ImageVerification.verifyDigest
      <*> .shown "required" .flag true ImageVerification.required
      <*> .optional "imageRegistryCredentials" RegistryCredentials.codec
            ImageVerification.imageRegistryCredentials
      <*> .shown "useCache" .flag true ImageVerification.useCache

/-- The single key and identity of older documents as one attestor set, if either is given.  The
annotations go with it. -/
def legacyAttestorSet (v : ImageVerification) : Option AttestorSet :=
  let keys : Option KeyAttestor := if v.key = "" then none else some { publicKeys := v.key }
  let identity : KeylessAttestor :=
    { issuer := v.issuer
      subject := v.subject
      roots := v.roots
      additionalExtensions := v.additionalExtensions }
  let keyless := if identity = {} then none else some identity
  if keys.isNone && keyless.isNone then none
  else some { entries := [{ keys, keyless, annotations := v.annotations }] }

/-- The image references, the single one of older documents last. -/
def allImageReferences (v : ImageVerification) : List String :=
  v.imageReferences ++ if v.image = "" then [] else [v.image]

end ImageVerification

/-! ## Rules -/

structure Rule where
  name : String := ""
  matchBlock : MatchBlock := {}
  exclude : Option MatchBlock := none
  context : List Json := []
  /-- The preconditions as written. -/
  preconditions : Option Json := none
  validation : Option Validation := none
  mutation : Option Mutation := none
  generation : Option Generation := none
  verifyImages : List ImageVerification := []
deriving DecidableEq

namespace Rule

instance : Unsigned Rule := ⟨fun r => { r with
  context := unsigned r.context
  preconditions := unsigned r.preconditions
  validation := unsigned r.validation
  mutation := unsigned r.mutation
  generation := unsigned r.generation
  verifyImages := unsigned r.verifyImages }⟩

def codec : Codec Rule :=
  .record "Rule" <|
    Rule.mk
      <$> .shown "name" .text "" Rule.name
      <*> .shown "match" MatchBlock.codec {} Rule.matchBlock
      <*> .optional "exclude" MatchBlock.codec Rule.exclude
      <*> .list "context" .json Rule.context
      <*> .optional "preconditions" .json Rule.preconditions
      <*> .optional "validate" Validation.codec Rule.validation
      <*> .optional "mutate" Mutation.codec Rule.mutation
      <*> .optional "generate" Generation.codec Rule.generation
      <*> .list "verifyImages" ImageVerification.codec Rule.verifyImages

end Rule

end HubSpoke.Hub
