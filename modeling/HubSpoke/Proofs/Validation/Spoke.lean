import HubSpoke.Proofs.Validation.Folding

/-!
# Well-formed spokes

A spoke is looked at for itself: what its own fields must be to have no finding, and what its
findings are, with neither a single name, nor an inline filter, nor a single signer to look for.
The hub it maps to is viewed as the spoke is, part by part, but for the action of each rule.
-/

namespace HubSpoke.Spoke

/-! ## Match blocks -/

/-- The parts of a description are well formed, and the namespaces of a policy in a namespace are
its own. -/
structure ResourceDescription.WellFormed (context : MatchContext) (d : ResourceDescription) :
    Prop where
  kinds : ∀ selector ∈ d.kinds, KindSelector.WellFormed context selector
  namespaces : context.namespaced → ∀ own ∈ context.namespaceName, ∀ name ∈ d.namespaces,
    name = own
  annotations : ∀ key ∈ d.annotations.keys, Text.isBlank key = false
  selector : ∀ s ∈ d.selector, s.WellFormed
  namespaceSelector : ∀ s ∈ d.namespaceSelector, s.WellFormed

/-- A filter constrains something, and its parts are well formed. -/
structure ResourceFilter.WellFormed (context : MatchContext) (filter : ResourceFilter) : Prop where
  constrains : filter ≠ {}
  user : filter.user.WellFormed context.mode
  resources : filter.resources.WellFormed context

/-- A block selects by one of its lists only, and its filters are well formed. -/
structure MatchBlock.WellFormed (context : MatchContext) (block : MatchBlock) : Prop where
  lists : block.any = [] ∨ block.all = []
  any : ∀ filter ∈ block.any, filter.WellFormed context
  all : ∀ filter ∈ block.all, filter.WellFormed context

section MatchBlocks

variable {context : MatchContext}

theorem ResourceFilter.isEmpty_view_iff {filter : ResourceFilter} :
    filter.view.isEmpty = false ↔ filter ≠ {} := by
  obtain ⟨⟨roles, clusterRoles, subjects⟩, ⟨kinds, names, namespaces, annotations, _⟩⟩ := filter
  simp [Hub.ResourceFilter.isEmpty, view, UserInfo.isEmpty, Hub.ResourceDescription.isEmpty,
    and_assoc]

theorem ResourceFilter.wellFormed_view_iff {filter : ResourceFilter} :
    filter.view.WellFormed context ↔ filter.WellFormed context := by
  constructor
  · rintro ⟨hconstrains, huser, -, hkinds, hnamespaces, hannotations, hselector, hother⟩
    exact ⟨isEmpty_view_iff.mp hconstrains, huser, hkinds, hnamespaces, hannotations, hselector,
      hother⟩
  · rintro ⟨hconstrains, huser, hkinds, hnamespaces, hannotations, hselector, hother⟩
    exact ⟨isEmpty_view_iff.mpr hconstrains, huser, .inl rfl, hkinds, hnamespaces, hannotations,
      hselector, hother⟩

theorem MatchBlock.isEmpty_view (block : MatchBlock) : block.view.isEmpty = block.isEmpty := by
  simp [view, MatchView.isEmpty, isEmpty]

theorem MatchBlock.wellFormed_view_iff {block : MatchBlock} :
    block.view.WellFormed context ↔ block.WellFormed context := by
  have hfilters (filters : List ResourceFilter) :
      (∀ filter ∈ filters.map ResourceFilter.view, filter.WellFormed context) ↔
        ∀ filter ∈ filters, filter.WellFormed context := by
    simp only [List.forall_mem_map, ResourceFilter.wellFormed_view_iff]
  rw [view]
  constructor
  · rintro ⟨hlists, -, hany, hall, -⟩
    exact ⟨by simpa using hlists, (hfilters _).mp hany, (hfilters _).mp hall⟩
  · rintro ⟨hlists, hany, hall⟩
    exact ⟨by simpa using hlists, nofun, (hfilters _).mpr hany, (hfilters _).mpr hall, nofun⟩

/-- A block is viewed as the hub block it maps to. -/
theorem MatchBlock.view_toHub (block : MatchBlock) : block.toHub.view = block.view := rfl

end MatchBlocks

/-! ## Image verifications -/

namespace ImageVerification

/-- An image is referred to, and the attestor sets are well formed. -/
structure WellFormed (v : ImageVerification) : Prop where
  references : ∃ reference ∈ v.imageReferences, Text.isBlank reference = false
  attestors : ∀ set ∈ v.attestors, set.WellFormed v.isNotary
  attestations : ∀ attestation ∈ v.attestations, ∀ set ∈ attestation.attestors,
    set.WellFormed v.isNotary

/-- What is wrong with an image verification, given whether failures of its rule are only
reported. -/
def findings (isAudit : Bool) (path : FieldPath) (v : ImageVerification) : List Finding :=
  Finding.require (!(isAudit && v.mutateDigest)) (path.child "mutateDigest")
    .mutateDigestInAudit ++
  Finding.require (v.imageReferences.any fun reference => !Text.isBlank reference)
    (path.child "imageReferences") .imageReferenceMissing ++
  AttestorSet.listFindings v.isNotary path v.attestors ++
  v.attestations.zipIdx.flatMap fun (attestation, position) =>
    AttestorSet.listFindings v.isNotary ((path.child "attestations").index position)
      attestation.attestors

theorem wellFormed_view_iff {v : ImageVerification} : v.view.WellFormed ↔ v.WellFormed :=
  ⟨fun h => ⟨h.references, h.attestors, List.forall_mem_map.mp h.attestations⟩,
    fun h => ⟨h.references, h.attestors, List.forall_mem_map.mpr h.attestations, nofun⟩⟩

theorem findings_view (v : ImageVerification) (isAudit : Bool) (path : FieldPath) :
    v.view.findings isAudit path = v.findings isAudit path := by
  simp only [ImageView.findings, findings, view, List.zipIdx_map, List.flatMap_map,
    Option.toList_none, List.flatMap_nil, List.append_nil]
  rfl

/-- An image verification is viewed as the one of the hub it maps to. -/
theorem view_toHub (v : ImageVerification) : v.toHub.view = v.view := by
  have hreferences : v.toHub.allImageReferences = v.imageReferences := by
    simp [Hub.ImageVerification.allImageReferences, toHub]
  have hattestations : v.toHub.attestations.map Hub.Attestation.attestors =
      v.attestations.map Attestation.attestors := List.map_map
  rw [Hub.ImageVerification.view, hreferences, hattestations]
  rfl

end ImageVerification

/-! ## Rules -/

namespace Rule

/-- The rule does something and selects something, and its parts are well formed. -/
structure WellFormed (context : MatchContext) (rule : Rule) : Prop where
  acts : rule.validation.isSome ∨ rule.mutation.isSome ∨ rule.generation.isSome ∨
    rule.verifyImages ≠ []
  selects : rule.matchBlock.isEmpty = false
  matchBlock : rule.matchBlock.WellFormed context
  exclude : ∀ block ∈ rule.exclude, block.WellFormed context
  images : ∀ image ∈ rule.verifyImages, image.WellFormed

/-- What is wrong with a rule, given whether its failures are only reported. -/
def findings (context : MatchContext) (isAudit : Bool) (path : FieldPath) (rule : Rule) :
    List Finding :=
  Finding.require (rule.kind ≠ .empty) path .ruleDoesNothing ++
  Finding.require (!rule.matchBlock.isEmpty) (path.child "match") .ruleMatchesNothing ++
  rule.matchBlock.view.findings context (path.child "match") ++
  (rule.exclude.toList.flatMap fun block =>
    block.view.findings context (path.child "exclude")) ++
  rule.verifyImages.zipIdx.flatMap fun (image, position) =>
    image.findings isAudit ((path.child "verifyImages").index position)

variable {context : MatchContext} {isAudit : Bool} {rule : Rule}

theorem kind_ne_empty_iff : rule.kind ≠ .empty ↔
    rule.validation.isSome ∨ rule.mutation.isSome ∨ rule.generation.isSome ∨
      rule.verifyImages ≠ [] := by
  rw [kind, RuleKind.ofBlocks_ne_empty_iff]
  simp

theorem wellFormed_view_iff : (rule.view isAudit).WellFormed context ↔ rule.WellFormed context := by
  have hselects : (rule.view isAudit).matchBlock.isEmpty = rule.matchBlock.isEmpty :=
    rule.matchBlock.isEmpty_view
  have hexclude : (∀ block ∈ rule.exclude.map MatchBlock.view, block.WellFormed context) ↔
      ∀ block ∈ rule.exclude, block.WellFormed context := by
    cases rule.exclude <;> simp [MatchBlock.wellFormed_view_iff]
  have himages : (∀ image ∈ rule.verifyImages.map ImageVerification.view, image.WellFormed) ↔
      ∀ image ∈ rule.verifyImages, image.WellFormed :=
    List.forall_mem_map.trans (forall₂_congr fun _ _ => ImageVerification.wellFormed_view_iff)
  constructor
  · intro h
    exact ⟨kind_ne_empty_iff.mp h.acts, hselects ▸ h.selects,
      MatchBlock.wellFormed_view_iff.mp h.matchBlock, hexclude.mp h.exclude, himages.mp h.images⟩
  · intro h
    exact ⟨kind_ne_empty_iff.mpr h.acts, hselects ▸ h.selects,
      MatchBlock.wellFormed_view_iff.mpr h.matchBlock, hexclude.mpr h.exclude,
      himages.mpr h.images⟩

theorem findings_view (rule : Rule) (context : MatchContext) (isAudit : Bool) (path : FieldPath) :
    (rule.view isAudit).findings context path = rule.findings context isAudit path := by
  have hselects : (rule.view isAudit).matchBlock.isEmpty = rule.matchBlock.isEmpty :=
    rule.matchBlock.isEmpty_view
  have hexclude : (rule.view isAudit).exclude.toList.flatMap
      (MatchView.findings context (path.child "exclude")) =
        rule.exclude.toList.flatMap fun block =>
          block.view.findings context (path.child "exclude") := by
    cases hblock : rule.exclude <;> simp [view, hblock]
  have himages : (rule.view isAudit).images.zipIdx =
      rule.verifyImages.zipIdx.map (Prod.map ImageVerification.view id) :=
    List.zipIdx_map
  rw [RuleView.findings, findings, hselects, hexclude, himages, List.flatMap_map]
  simp only [Prod.map, ImageVerification.findings_view]
  rfl

/-- A rule is viewed as the hub rule it maps to. -/
theorem view_toHub (rule : Rule) (isAudit : Bool) :
    rule.toHub.view isAudit = rule.view isAudit := by
  have himages : rule.toHub.verifyImages.map Hub.ImageVerification.view =
      rule.verifyImages.map ImageVerification.view :=
    List.map_map.trans (List.map_congr_left fun image _ => image.view_toHub)
  have hexclude : rule.toHub.exclude.map Hub.MatchBlock.view =
      rule.exclude.map MatchBlock.view := Option.map_map ..
  rw [Hub.Rule.view, himages, hexclude, Hub.Rule.kind_toHub]
  rfl

theorem wellFormed_toHub_iff : rule.toHub.WellFormed context ↔ rule.WellFormed context := by
  rw [← @Hub.Rule.wellFormed_view_iff context false, view_toHub, wellFormed_view_iff]

theorem mutatesDigests_toHub_iff :
    rule.toHub.MutatesDigests ↔ (rule.view isAudit).MutatesDigests := by
  rw [← view_toHub, Hub.Rule.mutatesDigests_view_iff]

end Rule

/-! ## Policies -/

namespace Policy

/-- What the blocks of a policy are validated against. -/
def matchContext (policy : Policy) (scope : ResourceScope) : MatchContext where
  mode := .ofBackground policy.spec.background
  namespaced := policy.kind.isNamespaced
  namespaceName := policy.metadata.ownNamespace?
  scope := scope

/-- What is wrong with a policy, told from its own fields. -/
def ownFindings (scope : ResourceScope) (policy : Policy) : List Finding :=
  let metadata := FieldPath.root "metadata"
  let spec := FieldPath.root "spec"
  let context := policy.matchContext scope
  Finding.require (!Text.isBlank policy.metadata.name) (metadata.child "name") .nameMissing ++
  Finding.require (!(context.namespaced && context.namespaceName.isNone))
    (metadata.child "namespace") .namespaceMissing ++
  Finding.require (!(policy.spec.admission = some false ∧ policy.spec.background = some false))
    (spec.child "admission") .allProcessingDisabled ++
  timeoutFindings (spec.child "webhookTimeoutSeconds") policy.spec.webhookTimeoutSeconds ++
  Finding.require (!policy.spec.rules.isEmpty) FieldPath.rules .noRules ++
  ruleNamesFindings FieldPath.rules (policy.spec.rules.map Rule.name) ++
  policy.spec.rules.zipIdx.flatMap fun (rule, position) =>
    rule.findings context (FailureAction.resolvesToAudit (policy.spec.effectiveAction rule))
      (FieldPath.rules.index position)

theorem names_view (policy : Policy) :
    policy.view.rules.map RuleView.name = policy.spec.rules.map Rule.name :=
  List.map_map

/-- The findings of a spoke are those told from its own fields. -/
theorem findings_eq_own (scope : ResourceScope) (policy : Policy) :
    policy.findings scope = policy.ownFindings scope := by
  have hnone : policy.view.rules.isEmpty = policy.spec.rules.isEmpty := List.isEmpty_map
  have hrules : policy.view.rules.zipIdx = policy.spec.rules.zipIdx.map (Prod.map (fun rule =>
      rule.view (FailureAction.resolvesToAudit (policy.spec.effectiveAction rule))) id) :=
    List.zipIdx_map
  rw [findings, PolicyView.findings, ownFindings, names_view, hnone, hrules, List.flatMap_map]
  simp only [Prod.map, Rule.findings_view]
  rfl

/-- A spoke is viewed as the hub it maps to, but that each rule has its own action. -/
theorem view_eq_toHub (policy : Policy) : policy.view = { policy.toHub.view with
    rules := policy.spec.rules.map fun rule =>
      rule.toHub.view (FailureAction.resolvesToAudit (policy.spec.effectiveAction rule)) } := by
  simp only [Rule.view_toHub]
  rfl

variable {policy : Policy} {scope : ResourceScope}

/-- The action of a rule does not matter for whether the policy is well formed. -/
theorem wellFormed_toHub_iff : policy.toHub.WellFormed scope ↔ policy.view.WellFormed scope := by
  have hnames : policy.toHub.spec.rules.map Hub.Rule.name = policy.view.rules.map RuleView.name :=
    List.map_map.trans policy.names_view.symm
  have hrules : (∀ rule ∈ policy.toHub.spec.rules,
      rule.WellFormed (policy.toHub.matchContext scope)) ↔
        ∀ rule ∈ policy.view.rules, rule.WellFormed (policy.view.matchContext scope) := by
    refine List.forall_mem_map.trans (Iff.trans ?_ List.forall_mem_map.symm)
    exact forall₂_congr fun _ _ => Rule.wellFormed_toHub_iff.trans Rule.wellFormed_view_iff.symm
  have hnonempty : policy.toHub.spec.rules ≠ [] ↔ policy.view.rules ≠ [] :=
    not_congr (List.map_eq_nil_iff.trans List.map_eq_nil_iff.symm)
  constructor
  · intro h
    exact ⟨⟨h.name, h.namespaceName, h.processing, h.timeout, hnonempty.mp h.nonempty,
      hnames ▸ h.names, hnames ▸ h.distinct⟩, hrules.mp h.rules⟩
  · intro h
    exact ⟨⟨h.name, h.namespaceName, h.processing, h.timeout, hnonempty.mpr h.nonempty,
      hnames ▸ h.names, hnames ▸ h.distinct⟩, hrules.mpr h.rules⟩

theorem mutatesDigests_toHub_iff : (∃ rule ∈ policy.toHub.spec.rules, rule.MutatesDigests) ↔
    ∃ rule ∈ policy.view.rules, rule.MutatesDigests := by
  have hrules : policy.toHub.spec.rules = policy.spec.rules.map Rule.toHub := rfl
  simp only [hrules, view, List.mem_map, exists_exists_and_eq_and]
  exact exists_congr fun _ => and_congr_right fun _ => Rule.mutatesDigests_toHub_iff

end Policy

end HubSpoke.Spoke
