import HubSpoke.Mapping.Conditions
import HubSpoke.Routing

/-!
# From the spoke to the hub

No older spelling is used, conditions are rendered as objects, and overrides are dropped.  The
routed values come from the last rule of each kind.  Nothing can fail.
-/

namespace HubSpoke.Spoke

/-! ## Match blocks -/

def ResourceDescription.toHub (d : ResourceDescription) : Hub.ResourceDescription where
  kinds := d.kinds
  names := d.names
  namespaces := d.namespaces
  annotations := d.annotations
  selector := d.selector
  namespaceSelector := d.namespaceSelector
  operations := d.operations

def ResourceFilter.toHub (f : ResourceFilter) : Hub.ResourceFilter where
  user := f.user
  resources := f.resources.toHub

/-- The block of the hub, with an empty inline filter. -/
def MatchBlock.toHub (block : MatchBlock) : Hub.MatchBlock where
  any := block.any.map ResourceFilter.toHub
  all := block.all.map ResourceFilter.toHub

/-! ## Rule blocks -/

/-- The deny block with raw conditions. -/
def Deny.toHub (d : Deny) : Hub.Deny where
  conditions := d.conditions.map ConditionBlock.toRaw

/-- The validation block, without action and overrides. -/
def Validation.toHub (v : Validation) : Hub.Validation where
  message := v.message
  manifests := v.manifests
  forEach := v.forEach
  pattern := v.pattern
  anyPattern := v.anyPattern
  deny := v.deny.map Deny.toHub
  podSecurity := v.podSecurity
  cel := v.cel

/-- The mutation target with raw preconditions. -/
def MutationTarget.toHub (t : MutationTarget) : Hub.MutationTarget where
  resource := t.resource
  context := t.context
  preconditions := t.preconditions.map ConditionBlock.toRaw

/-- The mutation block, without its trigger. -/
def Mutation.toHub (m : Mutation) : Hub.Mutation where
  targets := m.targets.map MutationTarget.toHub
  patchStrategicMerge := m.patchStrategicMerge
  patchesJson6902 := m.patchesJson6902
  forEach := m.forEach

/-- The generation block, without its trigger. -/
def Generation.toHub (g : Generation) : Hub.Generation where
  resource := g.resource
  synchronize := g.synchronize
  orphanDownstreamOnPolicyDelete := g.orphanDownstreamOnPolicyDelete
  data := g.data
  clone := g.clone
  cloneList := g.cloneList

/-- The attestation check of the hub. -/
def Attestation.toHub (a : Attestation) : Hub.Attestation where
  type := a.type
  attestors := a.attestors
  conditions := a.conditions

def ImageVerification.toHub (v : ImageVerification) : Hub.ImageVerification where
  type := v.type
  imageReferences := v.imageReferences
  skipImageReferences := v.skipImageReferences
  attestors := v.attestors
  attestations := v.attestations.map Attestation.toHub
  repository := v.repository
  mutateDigest := v.mutateDigest
  verifyDigest := v.verifyDigest
  required := v.required
  imageRegistryCredentials := v.imageRegistryCredentials
  useCache := v.useCache

/-! ## Rules and policies -/

/-- The rule, without routed values. -/
def Rule.toHub (r : Rule) : Hub.Rule where
  name := r.name
  matchBlock := r.matchBlock.toHub
  exclude := r.exclude.map MatchBlock.toHub
  context := r.context
  preconditions := r.preconditions.map ConditionBlock.toRaw
  validation := r.validation.map Validation.toHub
  mutation := r.mutation.map Mutation.toHub
  generation := r.generation.map Generation.toHub
  verifyImages := r.verifyImages.map ImageVerification.toHub

/-- The spec, with the routed values its rules supply. -/
def Spec.toHub (s : Spec) : Hub.Spec :=
  (Routed.ofSpoke s).writeTo {
    rules := s.rules.map Rule.toHub
    applyRules := s.applyRules
    failurePolicy := s.failurePolicy
    admission := s.admission
    background := s.background
    webhookTimeoutSeconds := s.webhookTimeoutSeconds
    useServerSideApply := s.useServerSideApply
    webhookConfiguration := s.webhookConfiguration }

/-- The policy with its spec mapped and all else kept. -/
def Policy.toHub (p : Policy) : Hub.Policy :=
  { kind := p.kind, metadata := p.metadata, spec := p.spec.toHub, status := p.status }

end HubSpoke.Spoke
