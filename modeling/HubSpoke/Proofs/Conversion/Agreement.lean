import HubSpoke.Proofs.Conversion.RoundTrip
import HubSpoke.Proofs.Conversion.RoutedEdit
import HubSpoke.Proofs.Conversion.Validity
import HubSpoke.Proofs.Validation.Spoke

/-!
# The same findings in both versions

A spoke without a stash has the findings of the hub it converts to, in their places and in their
order, as long as its rules agree on what becomes of failures.  Then the action of the hub, which is
that of the last rule that validates, is the action each rule of the spoke is evaluated with,
whether the rule has a block of its own to take it from or not; and whether the spoke had to be
stashed makes no difference, because a stash is nothing that is looked at.
-/

namespace HubSpoke

/-! ## The action of all rules -/

namespace Spoke

/-- The rules that validate have one failure action, which may be to have none. -/
def Spec.AgreesOn (spec : Spec) (action : Option FailureAction) : Prop :=
  ∀ rule ∈ spec.rules, ∀ block ∈ rule.validation, block.action = action

instance (spec : Spec) (action : Option FailureAction) : Decidable (spec.AgreesOn action) :=
  inferInstanceAs (Decidable (∀ rule ∈ spec.rules, ∀ block ∈ rule.validation, _))

variable {spec : Spec} {action : Option FailureAction} {rule : Rule}

/-- Where a rule validates, the last rule that does supplies the action they agree on. -/
theorem Spec.AgreesOn.action_ofSpoke (h : spec.AgreesOn action) (hrule : rule ∈ spec.rules)
    (hvalidates : rule.validation.isSome) : (Routed.ofSpoke spec).action = action := by
  have hkind : rule.kind = .validate := RuleKind.ofBlocks_eq_validate_iff.mpr hvalidates
  obtain ⟨last, hmem, hlastKind, hlast⟩ := exists_last hrule
  rw [hkind] at hlastKind hlast
  obtain ⟨block, hblock⟩ := Rule.validation_of_kind hlastKind
  calc (Routed.ofSpoke spec).action = ((Routed.ofSpoke spec).only .validate).action := rfl
    _ = ((Routed.ofRule last).only .validate).action := by rw [only_ofSpoke_last hlast]
    _ = block.action := by simp [Routed.only, Routed.ofRule, hblock]
    _ = action := h last hmem block hblock

/-- Where the rules agree on an action, each is evaluated with the one the hub has. -/
theorem Spec.AgreesOn.effectiveAction_eq (h : spec.AgreesOn action) (hrule : rule ∈ spec.rules) :
    spec.effectiveAction rule = (Routed.ofSpoke spec).action := by
  rw [effectiveAction]
  cases hblock : rule.validation with
  | none => rfl
  | some block =>
      rw [h.action_ofSpoke hrule (by simp [hblock])]
      exact h rule hrule block hblock

end Spoke

/-! ## The findings of both -/

/-- Findings depend on the metadata of a policy through its name and its namespace only. -/
theorem PolicyView.findings_withMetadata {policy : PolicyView} {metadata : Metadata}
    (hname : metadata.name = policy.metadata.name)
    (hnamespace : metadata.namespaceName = policy.metadata.namespaceName) (scope : ResourceScope) :
    PolicyView.findings scope { policy with metadata } = policy.findings scope := by
  simp only [findings, matchContext, Metadata.ownNamespace?, hname, hnamespace]

/-- A spoke whose rules agree on the failure action is viewed as the hub it maps to. -/
theorem Spoke.Policy.view_toHub {policy : Policy} {action : Option FailureAction}
    (hagrees : policy.spec.AgreesOn action) : policy.toHub.view = policy.view := by
  have hrules : (policy.spec.rules.map fun rule =>
      rule.toHub.view (FailureAction.resolvesToAudit (policy.spec.effectiveAction rule))) =
        policy.toHub.view.rules := by
    refine (List.map_congr_left fun rule hrule => ?_).trans List.map_map.symm
    rw [hagrees.effectiveAction_eq hrule]
    rfl
  rw [view_eq_toHub, hrules]

/-- A spoke without a stash whose rules agree on the failure action converts to a hub with the same
findings, which are those that the spoke's own fields give. -/
theorem findings_agree [Json.FloatReading] {policy : Spoke.Policy} {action : Option FailureAction}
    (hreserved : policy.metadata.payload? = none) (hagrees : policy.spec.AgreesOn action)
    (scope : ResourceScope) :
    ∃ up, policy.convert = .ok up ∧ up.policy.findings scope = policy.findings scope ∧
      policy.findings scope = policy.ownFindings scope := by
  obtain ⟨up, hconvert⟩ := Spoke.Policy.exists_convert_unreserved hreserved
  obtain ⟨hspec, hkind, hname, hnamespace⟩ := Spoke.Policy.convert_unreserved hreserved hconvert
  have hview : up.policy.view = { policy.toHub.view with metadata := up.policy.metadata } := by
    rw [Hub.Policy.view, hkind, hspec]
    rfl
  refine ⟨up, hconvert, ?_, policy.findings_eq_own scope⟩
  calc up.policy.findings scope
      = policy.toHub.view.findings scope := by
        rw [Hub.Policy.findings, hview, PolicyView.findings_withMetadata hname hnamespace]
    _ = policy.findings scope := by rw [Spoke.Policy.view_toHub hagrees, Spoke.Policy.findings]

/-- A spoke with two rules that enforce, of which the second has an override, and with a third that
repeats a name and verifies images by no reference. -/
def Json.agreeingSpoke : Json :=
  let selected : Json :=
    .obj [("any", .arr [.obj [("resources", .obj [("kinds", .arr [.str "Pod"])])]])]
  .policyDocument "kyverno.io/v2" []
    [("rules", .arr [
      .obj [("match", selected), ("name", .str "first"),
        ("validate", .obj [("validationFailureAction", .str "Enforce")])],
      .obj [("match", selected), ("name", .str "second"),
        ("validate", .obj [("validationFailureAction", .str "Enforce"),
          ("validationFailureActionOverrides", .arr [.obj [("action", .str "Audit")]])])],
      .obj [("match", selected), ("name", .str "first"), ("verifyImages", .arr [.obj []])]])]

theorem findings_agree_stashed :
    ∃ policy up, AnyPolicy.ofJson Json.agreeingSpoke = .ok (.spoke policy) ∧
      policy.metadata.payload? = none ∧ policy.spec.AgreesOn (some .enforce) ∧
      policy.convert = .ok up ∧ up.stashed = true ∧
      up.policy.findings .builtin = policy.findings .builtin ∧
      (policy.findings .builtin).map Finding.defect =
        [.ruleNameRepeated "first", .imageReferenceMissing] := by
  have hrun : Json.agreeingSpoke.spokeConverts fun policy up =>
      policy.metadata.payload?.isNone && decide (policy.spec.AgreesOn (some .enforce)) &&
        up.stashed && decide ((policy.findings .builtin).map Finding.defect =
          [.ruleNameRepeated "first", .imageReferenceMissing]) := by
    decide +kernel
  obtain ⟨policy, up, hdocument, hup, hasked⟩ := Json.exists_of_spokeConverts hrun
  simp only [Bool.and_eq_true, Option.isNone_iff_eq_none, decide_eq_true_eq] at hasked
  obtain ⟨⟨⟨hreserved, hagrees⟩, hstashed⟩, hfound⟩ := hasked
  obtain ⟨up', hup', hsame, -⟩ := findings_agree hreserved hagrees .builtin
  obtain rfl := Except.ok.inj (hup.symm.trans hup')
  exact ⟨policy, up, hdocument, hreserved, hagrees, hup, hstashed, hsame, hfound⟩

end HubSpoke
