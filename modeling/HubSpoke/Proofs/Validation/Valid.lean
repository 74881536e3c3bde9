import HubSpoke.Proofs.Validation.Spoke

/-!
# Valid policies

A policy of either version has no finding exactly when it is valid.  Validity says of the policy, of
its rules and of every part of them what they must be, each on its own, so that neither a check nor
an exception to one can hide among the steps of the validator.

Both versions are asked the same, except that a hub may hold older spellings, and that failures are
enforced by the action of the whole policy in a hub and by the action of each rule in a spoke.
-/

namespace HubSpoke

/-! ## Hubs -/

namespace Hub.Policy

/-- The policy is well formed, and rewrites no digests while failures are only reported. -/
structure Valid (scope : ResourceScope) (policy : Policy) : Prop
    extends policy.WellFormed scope where
  digests : ∀ rule ∈ policy.spec.rules,
    FailureAction.resolvesToAudit policy.spec.validationFailureAction →
      ∀ image ∈ rule.verifyImages, image.mutateDigest = false

variable {policy : Policy} {scope : ResourceScope}

theorem findings_eq_nil_iff : policy.findings scope = [] ↔ policy.Valid scope := by
  have hdigests : (∀ rule ∈ policy.view.rules, ¬ (rule.isAudit ∧ rule.MutatesDigests)) ↔
      ∀ rule ∈ policy.spec.rules,
        FailureAction.resolvesToAudit policy.spec.validationFailureAction →
          ∀ image ∈ rule.verifyImages, image.mutateDigest = false := by
    refine List.forall_mem_map.trans (forall₂_congr fun rule _ => ?_)
    rw [Rule.mutatesDigests_view_iff]
    simp [Rule.MutatesDigests, Rule.view]
  rw [findings, PolicyView.findings_eq_nil_iff, wellFormed_view_iff, hdigests]
  exact ⟨fun h => ⟨h.1, h.2⟩, fun h => ⟨h.toWellFormed, h.digests⟩⟩

end Hub.Policy

/-! ## Spokes -/

namespace Spoke.Policy

/-- The policy and its rules are well formed, and no rule whose own failures are only reported
rewrites digests. -/
structure Valid (scope : ResourceScope) (policy : Policy) : Prop where
  name : Text.isBlank policy.metadata.name = false
  namespaceName : policy.kind.isNamespaced → policy.metadata.ownNamespace?.isSome
  processing : ¬ (policy.spec.admission = some false ∧ policy.spec.background = some false)
  timeout : ∀ seconds ∈ policy.spec.webhookTimeoutSeconds,
    1 ≤ seconds.toInt ∧ seconds.toInt ≤ 30
  nonempty : policy.spec.rules ≠ []
  names : ∀ name ∈ policy.spec.rules.map Rule.name, RuleName.WellFormed name
  distinct : (policy.spec.rules.map Rule.name).Nodup
  rules : ∀ rule ∈ policy.spec.rules, rule.WellFormed (policy.matchContext scope)
  digests : ∀ rule ∈ policy.spec.rules,
    FailureAction.resolvesToAudit (policy.spec.effectiveAction rule) →
      ∀ image ∈ rule.verifyImages, image.mutateDigest = false

variable {policy : Policy} {scope : ResourceScope}

theorem findings_eq_nil_iff : policy.findings scope = [] ↔ policy.Valid scope := by
  have hrules : (∀ rule ∈ policy.view.rules, rule.WellFormed (policy.view.matchContext scope)) ↔
      ∀ rule ∈ policy.spec.rules, rule.WellFormed (policy.matchContext scope) :=
    List.forall_mem_map.trans (forall₂_congr fun _ _ => Rule.wellFormed_view_iff)
  have hdigests : (∀ rule ∈ policy.view.rules, ¬ (rule.isAudit ∧ rule.MutatesDigests)) ↔
      ∀ rule ∈ policy.spec.rules,
        FailureAction.resolvesToAudit (policy.spec.effectiveAction rule) →
          ∀ image ∈ rule.verifyImages, image.mutateDigest = false := by
    refine List.forall_mem_map.trans (forall₂_congr fun rule _ => ?_)
    simp [RuleView.MutatesDigests, Rule.view, ImageVerification.view]
  rw [findings, PolicyView.findings_eq_nil_iff, hdigests]
  constructor
  · rintro ⟨h, hnone⟩
    exact ⟨h.name, h.namespaceName, h.processing, h.timeout,
      mt List.map_eq_nil_iff.mpr h.nonempty, policy.names_view ▸ h.names,
      policy.names_view ▸ h.distinct, hrules.mp h.rules, hnone⟩
  · intro h
    exact ⟨⟨⟨h.name, h.namespaceName, h.processing, h.timeout,
      mt List.map_eq_nil_iff.mp h.nonempty, policy.names_view ▸ h.names,
      policy.names_view ▸ h.distinct⟩, hrules.mpr h.rules⟩, h.digests⟩

end Spoke.Policy

/-! ## Both versions -/

/-- The policy is valid, by what is asked of its version. -/
def AnyPolicy.Valid (scope : ResourceScope) : AnyPolicy → Prop
  | .hub policy => policy.Valid scope
  | .spoke policy => policy.Valid scope

/-- A policy of either version has no finding exactly when it is valid. -/
theorem no_findings_iff_valid (scope : ResourceScope) (policy : AnyPolicy) :
    policy.findings scope = [] ↔ policy.Valid scope := by
  cases policy with
  | hub policy => exact Hub.Policy.findings_eq_nil_iff
  | spoke policy => exact Spoke.Policy.findings_eq_nil_iff

end HubSpoke
