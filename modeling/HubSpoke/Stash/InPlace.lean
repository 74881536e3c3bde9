import HubSpoke.Stash.Overlay

/-!
# Laying a stashed hub spec over a mapped one, in place

The spec is rewritten step by step: first the fields of the policy, then rule by rule, and in each
rule unit by unit.  A stashed unit that holds conditions is mapped when its turn comes, which may
fail; what was written before stays written.

`Hub.Spec.overlay` is what comes of it.  The steps are spelled out here because a fault halfway
would leave a spec that is neither the mapped one nor the overlaid one.
-/

namespace HubSpoke

/-! ## Changes in place -/

/-- What changes a state step by step.  A step may fail, and the steps before it are not taken
back. -/
abbrev InPlace : Type → Type → Type :=
  EStateM PayloadFault

namespace InPlace

variable {σ α : Type}

/-- Something mapped from a stash.  If that fails, the payload is to blame. -/
def mapped (result : Except MalformedConditions α) : InPlace σ α :=
  match result with
  | .ok value => pure value
  | .error cause => throw (.conditions cause)

/-- Changes the items of a list one after another, up to the first that fails. -/
def eachItem (change : Nat → InPlace σ Unit) (start : Nat) : InPlace (List σ) Unit
  | [] => .ok () []
  | item :: rest =>
      match change start item with
      | .error fault item => .error fault (item :: rest)
      | .ok _ item =>
          match eachItem change (start + 1) rest with
          | .error fault rest => .error fault (item :: rest)
          | .ok _ rest => .ok () (item :: rest)

/-- Changes the rules of a spec. -/
def onRules (change : InPlace (List Hub.Rule) Unit) : InPlace Hub.Spec Unit := fun spec =>
  match change spec.rules with
  | .error fault rules => .error fault { spec with rules }
  | .ok _ rules => .ok () { spec with rules }

end InPlace

/-! ## Pairs of rules -/

/-- Where the stashed rule stands that goes with the rule of a name at a position. -/
def counterpartAt? (names : List String) (position : Nat) (name : String) : Option Nat :=
  if names[position]? = some name then some position
  else names.findIdx? fun other => other = name

/-! ## Rules -/

namespace Hub.Rule

/-- Writes one part of a rule: that of the stashed rule, if it maps to what the source holds, and
otherwise what it was. -/
def restorePart {α β : Type} (saved : Rule) (part : Rule → α) (withPart : Rule → α → Rule)
    (result : Except MalformedConditions β) (agrees : β → Prop) [DecidablePred agrees] :
    InPlace Rule Unit := do
  let value ← InPlace.mapped result
  modify fun rule => withPart rule (if agrees value then part saved else part rule)

/-- Puts the parts of a stashed rule, which stands at a path, into a rule one after another. -/
def restoreInPlace (saved : Rule) (current : Spoke.Rule) (path : FieldPath) :
    InPlace Rule Unit := do
  let current := current.stripped
  saved.restorePart matchBlock (fun rule matchBlock => { rule with matchBlock })
    (.ok saved.matchBlock.toSpoke) (· = current.matchBlock)
  saved.restorePart exclude (fun rule exclude => { rule with exclude })
    (.ok (saved.exclude.map MatchBlock.toSpoke)) (· = current.exclude)
  saved.restorePart preconditions (fun rule preconditions => { rule with preconditions })
    (ConditionBlock.ofField (path.child "preconditions") saved.preconditions)
    (sameData · current.preconditions)
  saved.restorePart validation (fun rule validation => { rule with validation })
    (saved.validation.mapM (Validation.toSpoke (path.child "validate")))
    (sameData · current.validation)
  saved.restorePart mutation (fun rule mutation => { rule with mutation })
    (saved.mutation.mapM (Mutation.toSpoke (path.child "mutate")))
    (sameData · current.mutation)
  saved.restorePart generation (fun rule generation => { rule with generation })
    (.ok (saved.generation.map Generation.toSpoke)) (sameData · current.generation)
  saved.restorePart verifyImages (fun rule verifyImages => { rule with verifyImages })
    (.ok (saved.verifyImages.map ImageVerification.toSpoke)) (sameData · current.verifyImages)

end Hub.Rule

/-! ## Specs -/

namespace Hub.Spec

/-- Restores the rule at a position, if the source has one there and the stash one of its name. -/
def restoreRuleAt (restored : Spec) (source : Spoke.Spec) (position : Nat) :
    InPlace Rule Unit := do
  let some current := source.rules[position]? | return
  let some place := counterpartAt? (restored.rules.map Rule.name) position (← get).name | return
  let some saved := restored.rules[place]? | return
  saved.restoreInPlace current (FieldPath.rules.index place)

/-- Lays the stashed spec over the one in place, which was mapped from the source. -/
def overlayInPlace (restored : Spec) (source : Spoke.Spec) : InPlace Spec Unit := do
  let remapped ← InPlace.mapped restored.toSpoke
  modify fun fresh =>
    if restored.validationFailureActionOverrides.isEmpty then fresh
    else { fresh with
      validationFailureActionOverrides := restored.validationFailureActionOverrides }
  modify fun fresh => { fresh with
    generateExistingOnPolicyUpdate :=
      restored.generateExistingOnPolicyUpdate <|> fresh.generateExistingOnPolicyUpdate }
  modify fun fresh => { fresh with
    schemaValidation := restored.schemaValidation <|> fresh.schemaValidation }
  modify fun fresh =>
    if remapped.rules.map Routed.ofRule = source.rules.map Routed.ofRule then
      (Routed.ofHub restored).writeTo fresh
    else fresh
  InPlace.onRules (InPlace.eachItem (restored.restoreRuleAt source) 0)

end Hub.Spec

end HubSpoke
