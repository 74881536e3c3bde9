import HubSpoke.Hub.Rule
import HubSpoke.Policy.Metadata

/-!
# Policies of the hub

The hub is the version policies are stored in.  It keeps the failure action and the triggers of
existing resources once per policy.
-/

namespace HubSpoke.Hub

/-- What a policy asks for. -/
structure Spec where
  rules : List Rule := []
  validationFailureAction : Option FailureAction := none
  validationFailureActionOverrides : List ActionOverride := []
  applyRules : Option ApplyRules := none
  failurePolicy : Option FailurePolicy := none
  admission : Option Bool := none
  background : Option Bool := none
  schemaValidation : Option Bool := none
  webhookTimeoutSeconds : Option Int32 := none
  mutateExistingOnPolicyUpdate : Bool := false
  generateExisting : Bool := false
  generateExistingOnPolicyUpdate : Option Bool := none
  useServerSideApply : Bool := false
  webhookConfiguration : Option WebhookConfiguration := none
deriving DecidableEq

namespace Spec

instance : Unsigned Spec := ⟨fun s => { s with rules := unsigned s.rules }⟩

def codec : Codec Spec :=
  .record "Spec" <|
    Spec.mk
      <$> .list "rules" Rule.codec Spec.rules
      <*> .optional "validationFailureAction" FailureAction.codec Spec.validationFailureAction
      <*> .list "validationFailureActionOverrides" ActionOverride.codec
            Spec.validationFailureActionOverrides
      <*> .optional "applyRules" ApplyRules.codec Spec.applyRules
      <*> .optional "failurePolicy" FailurePolicy.codec Spec.failurePolicy
      <*> .optional "admission" .flag Spec.admission
      <*> .optional "background" .flag Spec.background
      <*> .optional "schemaValidation" .flag Spec.schemaValidation
      <*> .optional "webhookTimeoutSeconds" .int32 Spec.webhookTimeoutSeconds
      <*> .flag "mutateExistingOnPolicyUpdate" Spec.mutateExistingOnPolicyUpdate
      <*> .flag "generateExisting" Spec.generateExisting
      <*> .optional "generateExistingOnPolicyUpdate" .flag Spec.generateExistingOnPolicyUpdate
      <*> .flag "useServerSideApply" Spec.useServerSideApply
      <*> .optional "webhookConfiguration" WebhookConfiguration.codec Spec.webhookConfiguration

end Spec

/-- A policy object. -/
structure Policy where
  kind : PolicyKind
  metadata : Metadata := {}
  spec : Spec := {}
  /-- What was observed, which is passed on as it is. -/
  status : Option Json := none
deriving DecidableEq

namespace Policy

instance : Unsigned Policy := ⟨fun p => { p with
  metadata := unsigned p.metadata
  spec := unsigned p.spec
  status := unsigned p.status }⟩

/-- The fields, in order. -/
def fields : Fields Policy Policy :=
  Policy.mk
    <$> .required "kind" PolicyKind.codec Policy.kind
    <*> .shown "metadata" Metadata.codec {} Policy.metadata
    <*> .shown "spec" Spec.codec {} Policy.spec
    <*> .optional "status" .json Policy.status

/-- A policy in JSON, without its version. -/
def codec : Codec Policy := .record "Policy" fields

end Policy

end HubSpoke.Hub
