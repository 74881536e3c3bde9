import HubSpoke.Mapping.Conditions
import HubSpoke.Routing

/-!
# From the hub to the spoke

Older spellings are folded into the lists that replaced them, always at the end: an inline filter
into `any` (or into `all`, where that is in use), a single name into the names, a single image into
the image references, a single key or identity into the attestors.  Raw conditions are typed, which
is all that can fail; the blocks are tried in the order preconditions, deny conditions,
preconditions of the mutation targets.
-/

namespace HubSpoke.Hub

/-! ## Match blocks -/

/-- The description with the single name among the names. -/
def ResourceDescription.toSpoke (d : ResourceDescription) : Spoke.ResourceDescription where
  kinds := d.kinds
  names := d.names ++ if d.name = "" then [] else [d.name]
  namespaces := d.namespaces
  annotations := d.annotations
  selector := d.selector
  namespaceSelector := d.namespaceSelector
  operations := d.operations

def ResourceFilter.toSpoke (f : ResourceFilter) : Spoke.ResourceFilter where
  user := f.user
  resources := f.resources.toSpoke

/-- The inline filter of a block. -/
def MatchBlock.inline (block : MatchBlock) : ResourceFilter where
  user := block.user
  resources := block.resources

/-- The block with the inline filter in one of its lists. -/
def MatchBlock.toSpoke (block : MatchBlock) : Spoke.MatchBlock :=
  let any := block.any.map ResourceFilter.toSpoke
  let all := block.all.map ResourceFilter.toSpoke
  if block.hasInline then
    if all.isEmpty then { any := any ++ [block.inline.toSpoke], all }
    else { any, all := all ++ [block.inline.toSpoke] }
  else { any, all }

/-! ## Rule blocks -/

/-- The deny block with typed conditions. -/
def Deny.toSpoke (path : FieldPath) (d : Deny) : Except MalformedConditions Spoke.Deny :=
  (ConditionBlock.ofField (path.child "conditions") d.conditions).map fun conditions =>
    { conditions }

/-- The validation block, with neither an action nor overrides. -/
def Validation.toSpoke (path : FieldPath) (v : Validation) :
    Except MalformedConditions Spoke.Validation := do
  let deny ← v.deny.mapM (Deny.toSpoke (path.child "deny"))
  return {
    message := v.message
    manifests := v.manifests
    forEach := v.forEach
    pattern := v.pattern
    anyPattern := v.anyPattern
    deny
    podSecurity := v.podSecurity
    cel := v.cel }

/-- The mutation target with typed preconditions. -/
def MutationTarget.toSpoke (path : FieldPath) (t : MutationTarget) :
    Except MalformedConditions Spoke.MutationTarget :=
  (ConditionBlock.ofField (path.child "preconditions") t.preconditions).map fun preconditions =>
    { resource := t.resource, context := t.context, preconditions }

/-- The mutation block, with its trigger off. -/
def Mutation.toSpoke (path : FieldPath) (m : Mutation) :
    Except MalformedConditions Spoke.Mutation := do
  let targets ← m.targets.zipIdx.mapM fun (target, position) =>
    target.toSpoke ((path.child "targets").index position)
  return {
    targets
    patchStrategicMerge := m.patchStrategicMerge
    patchesJson6902 := m.patchesJson6902
    forEach := m.forEach }

/-- The generation block, with its trigger off. -/
def Generation.toSpoke (g : Generation) : Spoke.Generation where
  resource := g.resource
  synchronize := g.synchronize
  orphanDownstreamOnPolicyDelete := g.orphanDownstreamOnPolicyDelete
  data := g.data
  clone := g.clone
  cloneList := g.cloneList

/-- The attestation check; the older predicate type goes before the type. -/
def Attestation.toSpoke (a : Attestation) : Spoke.Attestation where
  type := if a.predicateType = "" then a.type else a.predicateType
  attestors := a.attestors
  conditions := a.conditions

/-- The image verification with the single image and the single signer in its lists. -/
def ImageVerification.toSpoke (v : ImageVerification) : Spoke.ImageVerification where
  type := v.type
  imageReferences := v.allImageReferences
  skipImageReferences := v.skipImageReferences
  attestors := v.attestors ++ v.legacyAttestorSet.toList
  attestations := v.attestations.map Attestation.toSpoke
  repository := v.repository
  mutateDigest := v.mutateDigest
  verifyDigest := v.verifyDigest
  required := v.required
  imageRegistryCredentials := v.imageRegistryCredentials
  useCache := v.useCache

/-! ## Rules and policies -/

/-- The rule, without routed values. -/
def Rule.toSpoke (path : FieldPath) (r : Rule) : Except MalformedConditions Spoke.Rule := do
  let preconditions ← ConditionBlock.ofField (path.child "preconditions") r.preconditions
  let validation ← r.validation.mapM (Validation.toSpoke (path.child "validate"))
  let mutation ← r.mutation.mapM (Mutation.toSpoke (path.child "mutate"))
  return {
    name := r.name
    matchBlock := r.matchBlock.toSpoke
    exclude := r.exclude.map MatchBlock.toSpoke
    context := r.context
    preconditions
    validation
    mutation
    generation := r.generation.map Generation.toSpoke
    verifyImages := r.verifyImages.map ImageVerification.toSpoke }

/-- The spec, the routed values in its rules. -/
def Spec.toSpoke (s : Spec) : Except MalformedConditions Spoke.Spec := do
  let rules ← s.rules.zipIdx.mapM fun (rule, position) =>
    (rule.toSpoke (FieldPath.rules.index position)).map (Routed.ofHub s).routeInto
  return {
    rules
    applyRules := s.applyRules
    failurePolicy := s.failurePolicy
    admission := s.admission
    background := s.background
    webhookTimeoutSeconds := s.webhookTimeoutSeconds
    useServerSideApply := s.useServerSideApply
    webhookConfiguration := s.webhookConfiguration }

/-- The policy with its spec mapped and all else kept. -/
def Policy.toSpoke (p : Policy) : Except MalformedConditions Spoke.Policy :=
  p.spec.toSpoke.map fun spec =>
    { kind := p.kind, metadata := p.metadata, spec, status := p.status }

end HubSpoke.Hub
