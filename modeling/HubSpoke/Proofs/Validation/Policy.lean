import HubSpoke.Proofs.Validation.Image
import HubSpoke.Proofs.Validation.RuleNames

/-!
# Well-formed policies

A policy has no finding exactly when it is well formed and no rule whose failures are only reported
rewrites digests.  A well-formed policy can have findings of that last kind only.
-/

namespace HubSpoke

/-! ## Timeouts -/

theorem timeoutFindings_eq_nil_iff {path : FieldPath} {timeout : Option Int32} :
    timeoutFindings path timeout = [] ↔
      ∀ seconds ∈ timeout, 1 ≤ seconds.toInt ∧ seconds.toInt ≤ 30 := by
  cases timeout <;> simp [timeoutFindings]

/-! ## Rules -/

theorem RuleKind.ofBlocks_ne_empty_iff {validates mutates generates verifies : Bool} :
    ofBlocks validates mutates generates verifies ≠ .empty ↔
      validates ∨ mutates ∨ generates ∨ verifies := by
  cases validates <;> cases mutates <;> cases generates <;> cases verifies <;> simp [ofBlocks]

namespace RuleView

/-- The rule does something and selects something, and its parts are well formed. -/
structure WellFormed (context : MatchContext) (rule : RuleView) : Prop where
  acts : rule.kind ≠ .empty
  selects : rule.matchBlock.isEmpty = false
  matchBlock : rule.matchBlock.WellFormed context
  exclude : ∀ block ∈ rule.exclude, block.WellFormed context
  images : ∀ image ∈ rule.images, image.WellFormed

/-- Some image verification of the rule rewrites digests. -/
def MutatesDigests (rule : RuleView) : Prop :=
  ∃ image ∈ rule.images, image.mutateDigest

variable {context : MatchContext} {path : FieldPath} {rule : RuleView}

theorem findings_eq_nil_iff :
    rule.findings context path = [] ↔
      rule.WellFormed context ∧ ¬ (rule.isAudit ∧ rule.MutatesDigests) := by
  have hdigests : ¬ (rule.isAudit ∧ rule.MutatesDigests) ↔
      ∀ image ∈ rule.images, rule.isAudit → image.mutateDigest = false := by
    simp only [MutatesDigests, not_and, not_exists, Bool.not_eq_true]
    exact ⟨fun h image himage his => h his image himage, fun h his image himage =>
      h image himage his⟩
  simp only [findings, List.append_eq_nil_iff, Finding.require_eq_nil_iff, decide_eq_true_eq,
    Bool.not_eq_true', MatchView.findings_eq_nil_iff, List.flatMap_eq_nil_iff, Option.mem_toList,
    Prod.forall, ImageView.findings_eq_nil_iff, forall_mem_zipIdx_iff, hdigests]
  constructor
  · rintro ⟨⟨⟨⟨hacts, hselects⟩, hmatch⟩, hexclude⟩, himages⟩
    exact ⟨⟨hacts, hselects, hmatch, hexclude, fun image h => (himages image h).1⟩,
      fun image h => (himages image h).2⟩
  · rintro ⟨⟨hacts, hselects, hmatch, hexclude, himages⟩, hdigests⟩
    exact ⟨⟨⟨⟨hacts, hselects⟩, hmatch⟩, hexclude⟩, fun image h =>
      ⟨himages image h, hdigests image h⟩⟩

theorem WellFormed.defect_of_mem (hrule : rule.WellFormed context) {finding : Finding}
    (h : finding ∈ rule.findings context path) : finding.defect = .mutateDigestInAudit := by
  -- only the image verifications are left to have a finding
  have hempty : rule.exclude.toList.flatMap (MatchView.findings context (path.child "exclude")) =
      [] := by
    simpa [List.flatMap_eq_nil_iff, MatchView.findings_eq_nil_iff] using hrule.exclude
  rw [findings, hempty, MatchView.findings_eq_nil_iff.mpr hrule.matchBlock,
    Finding.require_eq_nil_iff.mpr (by simpa using hrule.acts),
    Finding.require_eq_nil_iff.mpr (by simpa using hrule.selects)] at h
  obtain ⟨⟨image, position⟩, himage, hmem⟩ := List.mem_flatMap.mp h
  exact (hrule.images image (List.fst_mem_of_mem_zipIdx himage)).defect_of_mem hmem

end RuleView

/-! ## Policies -/

namespace PolicyView

/-- The policy is well formed apart from what its rules do, and the rules have names of their
own. -/
structure OutlineWellFormed (policy : PolicyView) : Prop where
  name : Text.isBlank policy.metadata.name = false
  namespaceName : policy.kind.isNamespaced → policy.metadata.ownNamespace?.isSome
  processing : ¬ (policy.admission = some false ∧ policy.background = some false)
  timeout : ∀ seconds ∈ policy.webhookTimeoutSeconds, 1 ≤ seconds.toInt ∧ seconds.toInt ≤ 30
  nonempty : policy.rules ≠ []
  names : ∀ name ∈ policy.rules.map RuleView.name, RuleName.WellFormed name
  distinct : (policy.rules.map RuleView.name).Nodup

/-- The policy and its rules are well formed. -/
structure WellFormed (scope : ResourceScope) (policy : PolicyView) : Prop
    extends policy.OutlineWellFormed where
  rules : ∀ rule ∈ policy.rules, rule.WellFormed (policy.matchContext scope)

variable {policy : PolicyView} {scope : ResourceScope}

/-- The findings come from the outline of the policy and from its rules. -/
theorem exists_findings_eq (policy : PolicyView) (scope : ResourceScope) :
    ∃ outline : List Finding, (outline = [] ↔ policy.OutlineWellFormed) ∧
      policy.findings scope = outline ++ policy.rules.zipIdx.flatMap fun (rule, position) =>
        rule.findings (policy.matchContext scope) (FieldPath.rules.index position) := by
  refine ⟨_, ?_, rfl⟩
  simp only [List.append_eq_nil_iff, Finding.require_eq_nil_iff, Bool.not_eq_true',
    Bool.and_eq_false_imp, decide_eq_false_iff_not, timeoutFindings_eq_nil_iff,
    List.isEmpty_eq_false_iff, ruleNamesFindings_eq_nil_iff, Option.isNone_eq_false_iff]
  constructor
  · rintro ⟨⟨⟨⟨⟨hname, hnamespace⟩, hprocessing⟩, htimeout⟩, hnonempty⟩, hnames, hdistinct⟩
    exact ⟨hname, hnamespace, hprocessing, htimeout, hnonempty, hnames, hdistinct⟩
  · rintro ⟨hname, hnamespace, hprocessing, htimeout, hnonempty, hnames, hdistinct⟩
    exact ⟨⟨⟨⟨⟨hname, hnamespace⟩, hprocessing⟩, htimeout⟩, hnonempty⟩, hnames, hdistinct⟩

/-- There is no finding just when the policy is well formed and no rule rewrites digests whose
failures are only reported. -/
theorem findings_eq_nil_iff :
    policy.findings scope = [] ↔ policy.WellFormed scope ∧
      ∀ rule ∈ policy.rules, ¬ (rule.isAudit ∧ rule.MutatesDigests) := by
  obtain ⟨outline, houtline, hfindings⟩ := exists_findings_eq policy scope
  simp only [hfindings, List.append_eq_nil_iff, houtline, List.flatMap_eq_nil_iff, Prod.forall,
    RuleView.findings_eq_nil_iff, forall_mem_zipIdx_iff]
  constructor
  · rintro ⟨hoverall, hrules⟩
    exact ⟨⟨hoverall, fun rule hrule => (hrules rule hrule).1⟩,
      fun rule hrule => (hrules rule hrule).2⟩
  · rintro ⟨hpolicy, hdigests⟩
    exact ⟨hpolicy.toOutlineWellFormed,
      fun rule hrule => ⟨hpolicy.rules rule hrule, hdigests rule hrule⟩⟩

/-- Where all rules have one action, a well-formed policy is valid unless it rewrites digests while
failures are reported. -/
theorem WellFormed.findings_eq_nil_iff (h : policy.WellFormed scope) {isAudit : Bool}
    (haudit : ∀ rule ∈ policy.rules, rule.isAudit = isAudit) :
    policy.findings scope = [] ↔
      ¬ (isAudit ∧ ∃ rule ∈ policy.rules, rule.MutatesDigests) := by
  rw [PolicyView.findings_eq_nil_iff, and_iff_right h]
  constructor
  · rintro hnone ⟨his, rule, hrule, hdigests⟩
    exact hnone rule hrule ⟨(haudit rule hrule).trans his, hdigests⟩
  · rintro hnone rule hrule ⟨his, hdigests⟩
    exact hnone ⟨(haudit rule hrule).symm.trans his, rule, hrule, hdigests⟩

/-- All that can be wrong with a well-formed policy is that it rewrites digests. -/
theorem WellFormed.defect_of_mem (hpolicy : policy.WellFormed scope) {finding : Finding}
    (h : finding ∈ policy.findings scope) : finding.defect = .mutateDigestInAudit := by
  obtain ⟨outline, houtline, hfindings⟩ := exists_findings_eq policy scope
  rw [hfindings, houtline.mpr hpolicy.toOutlineWellFormed, List.nil_append] at h
  obtain ⟨⟨rule, position⟩, hitem, hmem⟩ := List.mem_flatMap.mp h
  exact (hpolicy.rules rule (List.fst_mem_of_mem_zipIdx hitem)).defect_of_mem hmem

end PolicyView

/-! ## Hubs -/

namespace Hub.Rule

/-- The rule does something and selects something, and its parts are well formed. -/
structure WellFormed (context : MatchContext) (rule : Rule) : Prop where
  acts : rule.validation.isSome ∨ rule.mutation.isSome ∨ rule.generation.isSome ∨
    rule.verifyImages ≠ []
  selects : rule.matchBlock.view.isEmpty = false
  matchBlock : rule.matchBlock.view.WellFormed context
  exclude : ∀ block ∈ rule.exclude, block.view.WellFormed context
  images : ∀ image ∈ rule.verifyImages, image.WellFormed

/-- Some image verification of the rule rewrites digests. -/
def MutatesDigests (rule : Rule) : Prop :=
  ∃ image ∈ rule.verifyImages, image.mutateDigest

variable {context : MatchContext} {isAudit : Bool} {rule : Rule}

theorem kind_ne_empty_iff : rule.kind ≠ .empty ↔
    rule.validation.isSome ∨ rule.mutation.isSome ∨ rule.generation.isSome ∨
      rule.verifyImages ≠ [] := by
  rw [kind, RuleKind.ofBlocks_ne_empty_iff]
  simp

theorem wellFormed_view_iff : (rule.view isAudit).WellFormed context ↔ rule.WellFormed context := by
  have hexclude : (∀ block ∈ rule.exclude.map MatchBlock.view, block.WellFormed context) ↔
      ∀ block ∈ rule.exclude, block.view.WellFormed context := by
    cases rule.exclude <;> simp
  have himages : (∀ image ∈ rule.verifyImages.map ImageVerification.view, image.WellFormed) ↔
      ∀ image ∈ rule.verifyImages, image.WellFormed :=
    List.forall_mem_map.trans (forall₂_congr fun _ _ => ImageVerification.wellFormed_view_iff)
  constructor
  · intro h
    exact ⟨kind_ne_empty_iff.mp h.acts, h.selects, h.matchBlock, hexclude.mp h.exclude,
      himages.mp h.images⟩
  · intro h
    exact ⟨kind_ne_empty_iff.mpr h.acts, h.selects, h.matchBlock, hexclude.mpr h.exclude,
      himages.mpr h.images⟩

theorem mutatesDigests_view_iff : (rule.view isAudit).MutatesDigests ↔ rule.MutatesDigests := by
  simp [RuleView.MutatesDigests, MutatesDigests, view, ImageVerification.view]

end Hub.Rule

namespace Hub.Policy

/-- What the blocks of a policy are validated against. -/
def matchContext (policy : Policy) (scope : ResourceScope) : MatchContext where
  mode := .ofBackground policy.spec.background
  namespaced := policy.kind.isNamespaced
  namespaceName := policy.metadata.ownNamespace?
  scope := scope

/-- The policy is well formed apart from what its rules do, and the rules have names of their
own. -/
structure OutlineWellFormed (policy : Policy) : Prop where
  name : Text.isBlank policy.metadata.name = false
  namespaceName : policy.kind.isNamespaced → policy.metadata.ownNamespace?.isSome
  processing : ¬ (policy.spec.admission = some false ∧ policy.spec.background = some false)
  timeout : ∀ seconds ∈ policy.spec.webhookTimeoutSeconds,
    1 ≤ seconds.toInt ∧ seconds.toInt ≤ 30
  nonempty : policy.spec.rules ≠ []
  names : ∀ name ∈ policy.spec.rules.map Rule.name, RuleName.WellFormed name
  distinct : (policy.spec.rules.map Rule.name).Nodup

/-- The policy and its rules are well formed. -/
structure WellFormed (scope : ResourceScope) (policy : Policy) : Prop
    extends policy.OutlineWellFormed where
  rules : ∀ rule ∈ policy.spec.rules, rule.WellFormed (policy.matchContext scope)

variable {policy : Policy} {scope : ResourceScope}

theorem names_view : policy.view.rules.map RuleView.name = policy.spec.rules.map Rule.name :=
  List.map_map

theorem wellFormed_view_iff : policy.view.WellFormed scope ↔ policy.WellFormed scope := by
  have hrules : (∀ rule ∈ policy.view.rules, rule.WellFormed (policy.view.matchContext scope)) ↔
      ∀ rule ∈ policy.spec.rules, rule.WellFormed (policy.matchContext scope) :=
    List.forall_mem_map.trans (forall₂_congr fun _ _ => Rule.wellFormed_view_iff)
  constructor
  · intro h
    exact ⟨⟨h.name, h.namespaceName, h.processing, h.timeout, mt List.map_eq_nil_iff.mpr h.nonempty,
      names_view ▸ h.names, names_view ▸ h.distinct⟩, hrules.mp h.rules⟩
  · intro h
    exact ⟨⟨h.name, h.namespaceName, h.processing, h.timeout, mt List.map_eq_nil_iff.mp h.nonempty,
      names_view ▸ h.names, names_view ▸ h.distinct⟩, hrules.mpr h.rules⟩

theorem mutatesDigests_view_iff : (∃ rule ∈ policy.view.rules, rule.MutatesDigests) ↔
    ∃ rule ∈ policy.spec.rules, rule.MutatesDigests := by
  simp only [view, List.mem_map, exists_exists_and_eq_and, Rule.mutatesDigests_view_iff]

end Hub.Policy

end HubSpoke
