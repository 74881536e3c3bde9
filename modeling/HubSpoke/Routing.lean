import HubSpoke.Hub.Policy
import HubSpoke.Spoke.Policy

/-!
# Routed values

The hub keeps the failure action and the two triggers once per policy, the spoke once per rule.
The kind of a rule says which of the three it carries.  Going to the spoke, each rule receives the
value of its kind; going to the hub, the last rule of each kind supplies it.
-/

namespace HubSpoke

/-! ## Kinds of rules -/

/-- What a rule mainly does. -/
inductive RuleKind where
  | validate
  | mutate
  | generate
  | verifyImages
  /-- The rule does nothing. -/
  | empty
deriving DecidableEq, Repr

namespace RuleKind

/-- The kind of a rule with the given blocks: of several, the earliest counts. -/
def ofBlocks (validates mutates generates verifiesImages : Bool) : RuleKind :=
  if validates then .validate
  else if mutates then .mutate
  else if generates then .generate
  else if verifiesImages then .verifyImages
  else .empty

def name : RuleKind → String
  | .validate => "validate"
  | .mutate => "mutate"
  | .generate => "generate"
  | .verifyImages => "verifyImages"
  | .empty => "empty"

end RuleKind

def Hub.Rule.kind (rule : Hub.Rule) : RuleKind :=
  .ofBlocks rule.validation.isSome rule.mutation.isSome rule.generation.isSome
    !rule.verifyImages.isEmpty

def Spoke.Rule.kind (rule : Spoke.Rule) : RuleKind :=
  .ofBlocks rule.validation.isSome rule.mutation.isSome rule.generation.isSome
    !rule.verifyImages.isEmpty

/-! ## The values -/

/-- The values the hub keeps per policy and the spoke per rule. -/
structure Routed where
  action : Option FailureAction := none
  mutateExisting : Bool := false
  generateExisting : Bool := false
deriving DecidableEq, Repr

namespace Routed

/-- The values a hub spec holds. -/
def ofHub (spec : Hub.Spec) : Routed where
  action := spec.validationFailureAction
  mutateExisting := spec.mutateExistingOnPolicyUpdate
  generateExisting := spec.generateExisting

/-- The values a rule's blocks hold, whatever its kind. -/
def ofRule (rule : Spoke.Rule) : Routed where
  action := rule.validation.bind Spoke.Validation.action
  mutateExisting := rule.mutation.any Spoke.Mutation.mutateExisting
  generateExisting := rule.generation.any Spoke.Generation.generateExisting

/-- The values after one more rule, which supplies the one of its kind. -/
def supplied (routed : Routed) (rule : Spoke.Rule) : Routed :=
  match rule.kind with
  | .validate => { routed with action := (ofRule rule).action }
  | .mutate => { routed with mutateExisting := (ofRule rule).mutateExisting }
  | .generate => { routed with generateExisting := (ofRule rule).generateExisting }
  | .verifyImages | .empty => routed

/-- The values that rules supply, the last rule of each kind winning. -/
def ofRules (rules : List Spoke.Rule) : Routed :=
  rules.foldl supplied {}

/-- The values the rules of a spoke spec supply. -/
def ofSpoke (spec : Spoke.Spec) : Routed :=
  ofRules spec.rules

/-- The hub spec with these values. -/
def writeTo (routed : Routed) (spec : Hub.Spec) : Hub.Spec :=
  { spec with
    validationFailureAction := routed.action
    mutateExistingOnPolicyUpdate := routed.mutateExisting
    generateExisting := routed.generateExisting }

/-- The rule with the value of its kind. -/
def routeInto (routed : Routed) (rule : Spoke.Rule) : Spoke.Rule :=
  match rule.kind with
  | .validate => { rule with
      validation := rule.validation.map fun block => { block with action := routed.action } }
  | .mutate => { rule with
      mutation := rule.mutation.map fun block =>
        { block with mutateExisting := routed.mutateExisting } }
  | .generate => { rule with
      generation := rule.generation.map fun block =>
        { block with generateExisting := routed.generateExisting } }
  | .verifyImages | .empty => rule

end Routed

/-- The failure action a rule is evaluated with: its own if it validates, and otherwise the one
the hub would hold for the whole policy. -/
def Spoke.Spec.effectiveAction (spec : Spoke.Spec) (rule : Spoke.Rule) : Option FailureAction :=
  match rule.validation with
  | some block => block.action
  | none => (Routed.ofSpoke spec).action

end HubSpoke
