import HubSpoke.Proofs.Conversion.RoutedEdit
import HubSpoke.Proofs.Mapping.RoundTrip

/-!
# What mapping to the hub loses

The hub has one value per kind for all rules, and no overrides.  So a spoke spec that goes to the
hub and back comes back narrowed: no rule has overrides, every rule carries the value of the last
rule of its kind, and a trigger in a block that is not the main one of its rule is off.  Nothing
else changes, and nothing else is lost: the narrowed spec maps to the same hub.
-/

namespace HubSpoke

namespace Spoke

/-- The rule without overrides, with the value of its kind that another rule carries, and with no
trigger set beside that. -/
def Rule.narrowedTo (rule last : Rule) : Rule :=
  { rule with
    validation := rule.validation.map fun block =>
      { block with action := last.validation.bind Validation.action, overrides := [] }
    mutation := rule.mutation.map fun block =>
      { block with
        mutateExisting := rule.kind = .mutate && last.mutation.any Mutation.mutateExisting }
    generation := rule.generation.map fun block =>
      { block with
        generateExisting :=
          rule.kind = .generate && last.generation.any Generation.generateExisting } }

/-- The spec with each rule narrowed to the last one of its kind. -/
def Spec.narrowed (spec : Spec) : Spec :=
  { spec with rules := spec.rules.map fun rule =>
      rule.narrowedTo ((spec.last? rule.kind).getD rule) }

/-! ## Narrowing is routing -/

namespace Rule

/-- Narrowing a rule gives what is shared of it the value of its kind. -/
theorem narrowedTo_eq (rule last : Rule) :
    rule.narrowedTo last = (Routed.ofRule last).routeInto rule.stripped := by
  rw [Routed.routeInto, kind_stripped]
  cases hkind : rule.kind with
  | validate => simp [narrowedTo, Routed.ofRule, hkind, stripped, Function.comp_def]
  -- a rule of another kind has no validation block
  | _ =>
      have hother : rule.kind ≠ .validate := by simp [hkind]
      have hvalidation := validation_eq_none_of_kind hother
      simp [narrowedTo, Routed.ofRule, hkind, stripped, Function.comp_def, hvalidation]

@[simp] theorem toHub_routeInto (rule : Rule) (routed : Routed) :
    (routed.routeInto rule).toHub = rule.toHub := by
  rw [← toHub_stripped, stripped_routeInto, toHub_stripped]

end Rule

namespace Spec

variable (spec : Spec)

theorem narrowed_eq : spec.narrowed = spec.rerouted (Routed.ofSpoke spec) := by
  refine congrArg (fun rules => ({ spec with rules } : Spec)) ?_
  refine List.map_congr_left fun rule hrule => ?_
  obtain ⟨last, -, -, hlast⟩ := exists_last hrule
  rw [hlast, Option.getD_some, Rule.narrowedTo_eq]
  refine Routed.routeInto_congr ?_
  rw [Rule.kind_stripped, only_ofSpoke_last hlast]

/-- The rules supply what is routed into them, where that is what they supplied before. -/
theorem ofSpoke_rerouted : Routed.ofSpoke (spec.rerouted (Routed.ofSpoke spec)) =
    Routed.ofSpoke spec := by
  refine Routed.eq_of_only fun kind => ?_
  have hrouted := Routed.only_ofRules_map_routeInto (Routed.ofSpoke spec) spec.stripped.rules kind
  rw [rerouted_eq, Routed.ofSpoke, hrouted]
  split
  case isTrue => rfl
  case isFalse hnone =>
    refine (Routed.only_ofRules_of_forall_ne fun rule hrule hkind => hnone ?_).symm
    exact ⟨rule.stripped, List.mem_map_of_mem hrule, Rule.kind_stripped.trans hkind⟩

theorem toHub_narrowed : spec.narrowed.toHub = spec.toHub := by
  have hrules : (spec.rerouted (Routed.ofSpoke spec)).rules.map Rule.toHub =
      spec.rules.map Rule.toHub := by
    simp [rerouted, Function.comp_def, Rule.toHub_stripped]
  rw [narrowed_eq, toHub, ofSpoke_rerouted, hrules, toHub]
  rfl

end Spec

end Spoke

/-- A decoded spoke spec comes back from the hub narrowed, and narrowing it changes nothing in the
hub spec it maps to. -/
theorem narrowed_round_trip {document : Json} {spec : Spoke.Spec}
    (hdecode : Spoke.Spec.codec.decode document = .ok spec) :
    spec.toHub.toSpoke = .ok spec.narrowed ∧ spec.narrowed.toHub = spec.toHub := by
  refine ⟨?_, spec.toHub_narrowed⟩
  rw [(Spoke.Spec.readsBack hdecode).toSpoke_toHub, Spoke.Spec.narrowed_eq]

/-- Rules of two blocks each, with actions and triggers of their own and some overrides. -/
def Json.mixedSpec : Json :=
  .obj [("rules", .arr [
    .obj [("mutate", .obj [("mutateExistingOnPolicyUpdate", .bool true)]),
      ("name", .str "first"),
      ("validate", .obj [("validationFailureAction", .str "Audit"),
        ("validationFailureActionOverrides", .arr [.obj [("action", .str "Enforce")]])])],
    .obj [("generate", .obj [("generateExisting", .bool true)]),
      ("mutate", .obj [("mutateExistingOnPolicyUpdate", .bool true)]), ("name", .str "second")],
    .obj [("name", .str "third"),
      ("validate", .obj [("validationFailureAction", .str "Enforce")])]])]

theorem narrowed_round_trip_mixed :
    ∃ spec, Spoke.Spec.codec.decode Json.mixedSpec = .ok spec ∧
      spec.toHub.toSpoke = .ok spec.narrowed ∧ spec.narrowed.rules.map Routed.ofRule =
        [{ action := some .enforce }, { mutateExisting := true }, { action := some .enforce }] ∧
      spec.rules.map Routed.ofRule =
        [{ action := some .audit, mutateExisting := true },
          { mutateExisting := true, generateExisting := true }, { action := some .enforce }] := by
  have hrun : (Spoke.Spec.codec.decode Json.mixedSpec).any fun spec =>
      decide (spec.narrowed.rules.map Routed.ofRule =
          [{ action := some .enforce }, { mutateExisting := true }, { action := some .enforce }] ∧
        spec.rules.map Routed.ofRule =
          [{ action := some .audit, mutateExisting := true },
            { mutateExisting := true, generateExisting := true },
            { action := some .enforce }]) := by
    decide +kernel
  obtain ⟨spec, hdecode, hasked⟩ := Except.any_iff.mp hrun
  obtain ⟨hnarrowed, hbefore⟩ := of_decide_eq_true hasked
  exact ⟨spec, hdecode, (narrowed_round_trip hdecode).1, hnarrowed, hbefore⟩

end HubSpoke
