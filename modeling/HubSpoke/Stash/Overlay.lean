import HubSpoke.Mapping.ToHub
import HubSpoke.Mapping.ToSpoke
import HubSpoke.Stash.Payload

/-!
# Laying a stashed spec over a mapped one

A freshly mapped spec takes from the stashed one what the source cannot hold, and nothing the
source has changed since:

* fields without a peer come back when the stash sets them;
* routed values come back all together, and only while the source still agrees with what the stash
  maps to;
* a unit of a hub rule comes back only when mapping the stashed unit gives the unit of the source.

Rules are paired by position where the names agree, and otherwise by name.
-/

namespace HubSpoke

/-! ## Pairs of rules -/

/-- The stashed rule that goes with the rule of a name at a position. -/
def counterpart? {ρ : Type} (nameOf : ρ → String) (stashed : List ρ) (position : Nat)
    (name : String) : Option ρ :=
  match stashed[position]? with
  | some rule =>
      if nameOf rule = name then some rule else stashed.find? fun rule => nameOf rule = name
  | none => stashed.find? fun rule => nameOf rule = name

/-! ## Over a spoke spec -/

namespace Spoke.Rule

/-- The rule with the overrides of a stashed rule, if that has any. -/
def withOverrides (rule saved : Rule) : Rule :=
  match saved.validation with
  | some stashed =>
      if stashed.overrides.isEmpty then rule
      else { rule with validation := rule.validation.map fun block =>
        { block with overrides := stashed.overrides } }
  | none => rule

/-- The rule with the routed values of a stashed rule, block by block. -/
def withRouted (rule saved : Rule) : Rule :=
  { rule with
    validation := rule.validation.map fun block => match saved.validation with
      | some stashed => { block with action := stashed.action }
      | none => block
    mutation := rule.mutation.map fun block => match saved.mutation with
      | some stashed => { block with mutateExisting := stashed.mutateExisting }
      | none => block
    generation := rule.generation.map fun block => match saved.generation with
      | some stashed => { block with generateExisting := stashed.generateExisting }
      | none => block }

/-- The rule without routed values and overrides: what the two versions share of it. -/
def stripped (rule : Rule) : Rule :=
  { rule with
    validation := rule.validation.map fun block => { block with action := none, overrides := [] }
    mutation := rule.mutation.map fun block => { block with mutateExisting := false }
    generation := rule.generation.map fun block => { block with generateExisting := false } }

end Spoke.Rule

/-- The rules of a spec, each changed by the stashed rule that goes with it. -/
def Spoke.Spec.overlayRules (change : Spoke.Rule → Spoke.Rule → Spoke.Rule)
    (restored : Spoke.Spec) (rules : List Spoke.Rule) : List Spoke.Rule :=
  rules.zipIdx.map fun (rule, position) =>
    match counterpart? Spoke.Rule.name restored.rules position rule.name with
    | some saved => change rule saved
    | none => rule

/-- The spec mapped from a hub spec, with what a stashed spoke spec holds beyond that. -/
def Spoke.Spec.overlay (fresh restored : Spoke.Spec) (source : Hub.Spec) : Spoke.Spec :=
  -- overrides come back in any case, routed values only while nothing on the way disagrees
  let rules := overlayRules Spoke.Rule.withOverrides restored fresh.rules
  let candidate := overlayRules Spoke.Rule.withRouted restored rules
  let routed := Routed.ofHub source
  if Routed.ofSpoke restored = routed ∧ Routed.ofRules candidate = routed then
    { fresh with rules := candidate }
  else { fresh with rules }

/-! ## Over a hub spec -/

/-- The rule with each unit of a stashed rule that maps to what the source holds. -/
def Hub.Rule.restoreUnits (fresh saved : Hub.Rule) (mapped current : Spoke.Rule) : Hub.Rule :=
  let mapped := mapped.stripped
  let current := current.stripped
  { fresh with
    matchBlock :=
      if mapped.matchBlock = current.matchBlock then saved.matchBlock else fresh.matchBlock
    exclude := if mapped.exclude = current.exclude then saved.exclude else fresh.exclude
    preconditions :=
      if sameData mapped.preconditions current.preconditions then saved.preconditions
      else fresh.preconditions
    validation :=
      if sameData mapped.validation current.validation then saved.validation
      else fresh.validation
    mutation :=
      if sameData mapped.mutation current.mutation then saved.mutation else fresh.mutation
    generation :=
      if sameData mapped.generation current.generation then saved.generation
      else fresh.generation
    verifyImages :=
      if sameData mapped.verifyImages current.verifyImages then saved.verifyImages
      else fresh.verifyImages }

/-- The rules mapped from a spoke spec, with the units of the stashed rules that go with them. -/
def Hub.Spec.overlayRules (fresh : List Hub.Rule) (restored : List (Hub.Rule × Spoke.Rule))
    (source : List Spoke.Rule) : List Hub.Rule :=
  fresh.zipIdx.map fun (rule, position) =>
    match source[position]?, counterpart? (fun pair => pair.1.name) restored position rule.name with
    | some current, some (saved, mapped) => rule.restoreUnits saved mapped current
    | _, _ => rule

/-- The spec mapped from a spoke spec, with what a stashed hub spec holds beyond that.  A stashed
spec that does not map is malformed. -/
def Hub.Spec.overlay (fresh restored : Hub.Spec) (source : Spoke.Spec) :
    Except PayloadFault Hub.Spec := do
  let remapped ← restored.toSpoke.mapError .conditions
  let kept := { fresh with
    validationFailureActionOverrides :=
      if restored.validationFailureActionOverrides.isEmpty then
        fresh.validationFailureActionOverrides
      else restored.validationFailureActionOverrides
    generateExistingOnPolicyUpdate :=
      restored.generateExistingOnPolicyUpdate <|> fresh.generateExistingOnPolicyUpdate
    schemaValidation := restored.schemaValidation <|> fresh.schemaValidation }
  -- the blocks are compared rule by rule, whichever of them supplies the value of its kind
  let routed :=
    if remapped.rules.map Routed.ofRule = source.rules.map Routed.ofRule then
      (Routed.ofHub restored).writeTo kept
    else kept
  return { routed with
    rules := overlayRules fresh.rules (restored.rules.zip remapped.rules) source.rules }

end HubSpoke
