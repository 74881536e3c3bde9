import HubSpoke.Mapping.ToSpoke
import HubSpoke.Proofs.Outcome

/-!
# What maps from the hub to the spoke

Typing conditions is all that can fail, and where a rule stands is told in the error only.  So
whether a rule maps, and to what, does not depend on its place: `MapsTo` says of each unit what it
maps to, and `toSpoke_eq_ok_iff` that mapping gives just that.
-/

namespace HubSpoke

namespace ConditionBlock

/-- The raw value types, and gives the block. -/
def SpelledBy (raw : Json) (block : ConditionBlock) : Prop :=
  ofRaw raw = .ok block

theorem ofField_eq_ok_iff {path : FieldPath} {raw : Option Json}
    {block : Option ConditionBlock} :
    ofField path raw = .ok block ↔ Option.Rel SpelledBy raw block := by
  cases raw with
  | none => cases block <;> simp [ofField]
  | some raw =>
      cases block <;>
        simp [ofField, SpelledBy, Except.mapError_eq_ok_iff, Except.map_eq_ok_iff]

end ConditionBlock

namespace Hub

/-! ## Blocks -/

/-- The typed form of a deny block. -/
def Deny.MapsTo (d : Deny) (x : Spoke.Deny) : Prop :=
  Option.Rel ConditionBlock.SpelledBy d.conditions x.conditions

theorem Deny.toSpoke_eq_ok_iff {path : FieldPath} {d : Deny} {x : Spoke.Deny} :
    d.toSpoke path = .ok x ↔ d.MapsTo x := by
  simp only [toSpoke, MapsTo, Except.map_eq_ok_iff, ConditionBlock.ofField_eq_ok_iff]
  constructor
  · rintro ⟨conditions, hconditions, rfl⟩
    exact hconditions
  · intro h
    exact ⟨x.conditions, h, rfl⟩

/-- The typed form of a validation block. -/
structure Validation.MapsTo (v : Validation) (x : Spoke.Validation) : Prop where
  deny : Option.Rel Deny.MapsTo v.deny x.deny
  rest : x = {
    message := v.message
    manifests := v.manifests
    forEach := v.forEach
    pattern := v.pattern
    anyPattern := v.anyPattern
    deny := x.deny
    podSecurity := v.podSecurity
    cel := v.cel }

theorem Validation.toSpoke_eq_ok_iff {path : FieldPath} {v : Validation} {x : Spoke.Validation} :
    v.toSpoke path = .ok x ↔ v.MapsTo x := by
  simp only [toSpoke, Except.bind_eq_ok_iff, Except.optionMapM_eq_ok_iff, Deny.toSpoke_eq_ok_iff]
  constructor
  · rintro ⟨deny, hdeny, heq⟩
    obtain rfl := Except.ok.inj heq
    exact ⟨hdeny, rfl⟩
  · rintro ⟨hdeny, hrest⟩
    exact ⟨x.deny, hdeny, congrArg Except.ok hrest.symm⟩

/-- The typed form of a mutation target. -/
structure MutationTarget.MapsTo (t : MutationTarget) (x : Spoke.MutationTarget) : Prop where
  preconditions : Option.Rel ConditionBlock.SpelledBy t.preconditions x.preconditions
  rest : x = { resource := t.resource, context := t.context, preconditions := x.preconditions }

theorem MutationTarget.toSpoke_eq_ok_iff {path : FieldPath} {t : MutationTarget}
    {x : Spoke.MutationTarget} : t.toSpoke path = .ok x ↔ t.MapsTo x := by
  simp only [toSpoke, Except.map_eq_ok_iff, ConditionBlock.ofField_eq_ok_iff]
  constructor
  · rintro ⟨preconditions, hpreconditions, rfl⟩
    exact ⟨hpreconditions, rfl⟩
  · rintro ⟨hpreconditions, hrest⟩
    exact ⟨x.preconditions, hpreconditions, hrest.symm⟩

/-- The typed form of a mutation block. -/
structure Mutation.MapsTo (m : Mutation) (x : Spoke.Mutation) : Prop where
  targets : List.Forall₂ MutationTarget.MapsTo m.targets x.targets
  rest : x = {
    targets := x.targets
    patchStrategicMerge := m.patchStrategicMerge
    patchesJson6902 := m.patchesJson6902
    forEach := m.forEach }

theorem Mutation.toSpoke_eq_ok_iff {path : FieldPath} {m : Mutation} {x : Spoke.Mutation} :
    m.toSpoke path = .ok x ↔ m.MapsTo x := by
  unfold toSpoke
  rw [Except.bind_eq_ok_iff]
  constructor
  · rintro ⟨targets, htargets, heq⟩
    rw [Except.mapM_zipIdx_eq_ok_iff MutationTarget.toSpoke_eq_ok_iff] at htargets
    obtain rfl := Except.ok.inj heq
    exact ⟨htargets, rfl⟩
  · rintro ⟨htargets, hrest⟩
    refine ⟨x.targets, ?_, congrArg Except.ok hrest.symm⟩
    rwa [Except.mapM_zipIdx_eq_ok_iff MutationTarget.toSpoke_eq_ok_iff]

/-! ## Rules and specs -/

/-- The typed form of a rule, before the routed values are put in. -/
structure Rule.MapsTo (r : Rule) (x : Spoke.Rule) : Prop where
  preconditions : Option.Rel ConditionBlock.SpelledBy r.preconditions x.preconditions
  validation : Option.Rel Validation.MapsTo r.validation x.validation
  mutation : Option.Rel Mutation.MapsTo r.mutation x.mutation
  rest : x = {
    name := r.name
    matchBlock := r.matchBlock.toSpoke
    exclude := r.exclude.map MatchBlock.toSpoke
    context := r.context
    preconditions := x.preconditions
    validation := x.validation
    mutation := x.mutation
    generation := r.generation.map Generation.toSpoke
    verifyImages := r.verifyImages.map ImageVerification.toSpoke }

theorem Rule.toSpoke_eq_ok_iff {path : FieldPath} {r : Rule} {x : Spoke.Rule} :
    r.toSpoke path = .ok x ↔ r.MapsTo x := by
  simp only [toSpoke, Except.bind_eq_ok_iff, Except.optionMapM_eq_ok_iff,
    ConditionBlock.ofField_eq_ok_iff, Validation.toSpoke_eq_ok_iff, Mutation.toSpoke_eq_ok_iff]
  constructor
  · rintro ⟨preconditions, hpreconditions, validation, hvalidation, mutation, hmutation, heq⟩
    obtain rfl := Except.ok.inj heq
    exact ⟨hpreconditions, hvalidation, hmutation, rfl⟩
  · rintro ⟨hpreconditions, hvalidation, hmutation, hrest⟩
    exact ⟨_, hpreconditions, _, hvalidation, _, hmutation, congrArg Except.ok hrest.symm⟩

/-- The spoke spec of typed rules. -/
def Spec.spokeOf (s : Spec) (rules : List Spoke.Rule) : Spoke.Spec where
  rules := rules.map (Routed.ofHub s).routeInto
  applyRules := s.applyRules
  failurePolicy := s.failurePolicy
  admission := s.admission
  background := s.background
  webhookTimeoutSeconds := s.webhookTimeoutSeconds
  useServerSideApply := s.useServerSideApply
  webhookConfiguration := s.webhookConfiguration

theorem Spec.toSpoke_eq_ok_iff {s : Spec} {x : Spoke.Spec} :
    s.toSpoke = .ok x ↔
      ∃ rules, List.Forall₂ Rule.MapsTo s.rules rules ∧ s.spokeOf rules = x := by
  unfold toSpoke
  rw [Except.bind_eq_ok_iff]
  simp only [Except.mapM_map_result, Except.map_eq_ok_iff]
  constructor
  · rintro ⟨_, ⟨rules, hrules, rfl⟩, heq⟩
    rw [Except.mapM_zipIdx_eq_ok_iff Rule.toSpoke_eq_ok_iff] at hrules
    exact ⟨rules, hrules, Except.ok.inj heq⟩
  · rintro ⟨rules, hrules, rfl⟩
    refine ⟨_, ⟨rules, ?_, rfl⟩, rfl⟩
    rwa [Except.mapM_zipIdx_eq_ok_iff Rule.toSpoke_eq_ok_iff]

end Hub

end HubSpoke
