import HubSpoke.Policy.Document
import HubSpoke.Routing
import HubSpoke.Validation.Image
import HubSpoke.Validation.Match

/-!
# Valid policies

A policy is valid when it has no finding.  `RuleView` and `PolicyView` are what a rule and a policy
of either version are checked for.  The rules of a hub share its failure action, and each rule of a
spoke has its own.
-/

namespace HubSpoke

/-! ## Checks that stand alone -/

/-- What is wrong with a webhook timeout. -/
def timeoutFindings (path : FieldPath) (timeout : Option Int32) : List Finding :=
  match timeout with
  | some seconds =>
      Finding.require (1 ≤ seconds.toInt ∧ seconds.toInt ≤ 30) path .timeoutOutOfRange
  | none => []

/-- What is wrong with the name of a rule, given the names seen before it. -/
def ruleNameFindings (path : FieldPath) (seen : List String) (name : String) : List Finding :=
  if Text.isBlank name then [⟨path, .ruleNameMissing⟩]
  else Finding.require (name.utf8ByteSize ≤ Defect.maxRuleName) path .ruleNameTooLong ++
    Finding.require (!seen.contains name) path (.ruleNameRepeated name)

/-- The names seen after one more, of which a blank one is not taken note of. -/
def ruleNamesSeen (seen : List String) (name : String) : List String :=
  if Text.isBlank name then seen else seen.insert name

/-- What is wrong with the names of the rules from a position on, given the names seen before. -/
def ruleNamesFindingsFrom (rules : FieldPath) (position : Nat) (seen : List String) :
    List String → List Finding
  | [] => []
  | name :: names =>
      ruleNameFindings ((rules.index position).child "name") seen name ++
        ruleNamesFindingsFrom rules (position + 1) (ruleNamesSeen seen name) names

/-- What is wrong with the names of rules. -/
def ruleNamesFindings (rules : FieldPath) (names : List String) : List Finding :=
  ruleNamesFindingsFrom rules 0 [] names

/-! ## Rules -/

/-- What a rule is checked for. -/
structure RuleView where
  name : String
  kind : RuleKind
  matchBlock : MatchView
  exclude : Option MatchView
  images : List ImageView
  /-- Failures of the rule are only reported. -/
  isAudit : Bool
deriving DecidableEq

/-- What is wrong with a rule. -/
def RuleView.findings (context : MatchContext) (path : FieldPath) (rule : RuleView) :
    List Finding :=
  Finding.require (rule.kind ≠ .empty) path .ruleDoesNothing ++
  Finding.require (!rule.matchBlock.isEmpty) (path.child "match") .ruleMatchesNothing ++
  rule.matchBlock.findings context (path.child "match") ++
  (rule.exclude.toList.flatMap (MatchView.findings context (path.child "exclude"))) ++
  rule.images.zipIdx.flatMap fun (image, position) =>
    image.findings rule.isAudit ((path.child "verifyImages").index position)

/-! ## Policies -/

/-- The namespace of a policy, unless it is empty. -/
def Metadata.ownNamespace? (m : Metadata) : Option String :=
  m.namespaceName.filter fun name => !name.isEmpty

/-- What a policy is checked for. -/
structure PolicyView where
  kind : PolicyKind
  metadata : Metadata
  admission : Option Bool
  background : Option Bool
  webhookTimeoutSeconds : Option Int32
  rules : List RuleView
deriving DecidableEq

namespace PolicyView

/-- What the blocks of a policy are validated against. -/
def matchContext (policy : PolicyView) (scope : ResourceScope) : MatchContext where
  mode := .ofBackground policy.background
  namespaced := policy.kind.isNamespaced
  namespaceName := policy.metadata.ownNamespace?
  scope := scope

/-- What is wrong with a policy. -/
def findings (scope : ResourceScope) (policy : PolicyView) : List Finding :=
  let metadata := FieldPath.root "metadata"
  let spec := FieldPath.root "spec"
  let context := policy.matchContext scope
  Finding.require (!Text.isBlank policy.metadata.name) (metadata.child "name") .nameMissing ++
  Finding.require (!(context.namespaced && context.namespaceName.isNone))
    (metadata.child "namespace") .namespaceMissing ++
  Finding.require (!(policy.admission = some false ∧ policy.background = some false))
    (spec.child "admission") .allProcessingDisabled ++
  timeoutFindings (spec.child "webhookTimeoutSeconds") policy.webhookTimeoutSeconds ++
  Finding.require (!policy.rules.isEmpty) FieldPath.rules .noRules ++
  ruleNamesFindings FieldPath.rules (policy.rules.map RuleView.name) ++
  policy.rules.zipIdx.flatMap fun (rule, position) =>
    rule.findings context (FieldPath.rules.index position)

end PolicyView

namespace Hub

def Rule.view (isAudit : Bool) (rule : Rule) : RuleView where
  name := rule.name
  kind := rule.kind
  matchBlock := rule.matchBlock.view
  exclude := rule.exclude.map MatchBlock.view
  images := rule.verifyImages.map ImageVerification.view
  isAudit := isAudit

def Policy.view (policy : Policy) : PolicyView where
  kind := policy.kind
  metadata := policy.metadata
  admission := policy.spec.admission
  background := policy.spec.background
  webhookTimeoutSeconds := policy.spec.webhookTimeoutSeconds
  rules := policy.spec.rules.map
    (Rule.view (FailureAction.resolvesToAudit policy.spec.validationFailureAction))

/-- What is wrong with a hub policy. -/
def Policy.findings (scope : ResourceScope) (policy : Policy) : List Finding :=
  policy.view.findings scope

end Hub

namespace Spoke

def Rule.view (isAudit : Bool) (rule : Rule) : RuleView where
  name := rule.name
  kind := rule.kind
  matchBlock := rule.matchBlock.view
  exclude := rule.exclude.map MatchBlock.view
  images := rule.verifyImages.map ImageVerification.view
  isAudit := isAudit

def Policy.view (policy : Policy) : PolicyView where
  kind := policy.kind
  metadata := policy.metadata
  admission := policy.spec.admission
  background := policy.spec.background
  webhookTimeoutSeconds := policy.spec.webhookTimeoutSeconds
  rules := policy.spec.rules.map fun rule =>
    rule.view (FailureAction.resolvesToAudit (policy.spec.effectiveAction rule))

/-- What is wrong with a spoke policy. -/
def Policy.findings (scope : ResourceScope) (policy : Policy) : List Finding :=
  policy.view.findings scope

end Spoke

/-- What is wrong with a policy of either version. -/
def AnyPolicy.findings (scope : ResourceScope) : AnyPolicy → List Finding
  | .hub policy => policy.findings scope
  | .spoke policy => policy.findings scope

end HubSpoke
