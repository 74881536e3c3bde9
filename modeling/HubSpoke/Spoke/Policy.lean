import HubSpoke.Spoke.Rule
import HubSpoke.Policy.Metadata

/-!
# Policies of the spoke

The spoke is the newer version.  What the hub keeps once per policy stands in the rules here.
-/

namespace HubSpoke.Spoke

/-- What a policy asks for. -/
structure Spec where
  rules : List Rule := []
  applyRules : Option ApplyRules := none
  failurePolicy : Option FailurePolicy := none
  admission : Option Bool := none
  background : Option Bool := none
  webhookTimeoutSeconds : Option Int32 := none
  useServerSideApply : Bool := false
  webhookConfiguration : Option WebhookConfiguration := none
deriving DecidableEq

namespace Spec

instance : Unsigned Spec := ⟨fun s => { s with rules := unsigned s.rules }⟩

def codec : Codec Spec :=
  .record "Spec" <|
    Spec.mk
      <$> .list "rules" Rule.codec Spec.rules
      <*> .optional "applyRules" ApplyRules.codec Spec.applyRules
      <*> .optional "failurePolicy" FailurePolicy.codec Spec.failurePolicy
      <*> .optional "admission" .flag Spec.admission
      <*> .optional "background" .flag Spec.background
      <*> .optional "webhookTimeoutSeconds" .int32 Spec.webhookTimeoutSeconds
      <*> .flag "useServerSideApply" Spec.useServerSideApply
      <*> .optional "webhookConfiguration" WebhookConfiguration.codec Spec.webhookConfiguration

end Spec

/-- A policy object. -/
structure Policy where
  kind : PolicyKind
  metadata : Metadata := {}
  spec : Spec := {}
  /-- What was observed, which is passed on as it is. -/
  status : Option Json := none
deriving DecidableEq

namespace Policy

instance : Unsigned Policy := ⟨fun p => { p with
  metadata := unsigned p.metadata
  spec := unsigned p.spec
  status := unsigned p.status }⟩

/-- The fields, in order. -/
def fields : Fields Policy Policy :=
  Policy.mk
    <$> .required "kind" PolicyKind.codec Policy.kind
    <*> .shown "metadata" Metadata.codec {} Policy.metadata
    <*> .shown "spec" Spec.codec {} Policy.spec
    <*> .optional "status" .json Policy.status

/-- A policy in JSON, without its version. -/
def codec : Codec Policy := .record "Policy" fields

end Policy

end HubSpoke.Spoke
