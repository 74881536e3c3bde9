import HubSpoke.Proofs.Conversion.RoundTrip
import HubSpoke.Proofs.Conversion.RoutedEdit
import HubSpoke.Proofs.Mapping.NormalForm

/-!
# When a stash is needed

A policy without an annotation is given one exactly when it is not in normal form.  For a hub,
mapping there and back must change its data; the hub that is mapped back is itself never in need of
a stash, so that nothing but its spec is compared.  For a decoded spoke, what is lost is what stands
in its rules beyond one value per kind: overrides, a value other than that of the last rule of the
kind, and a trigger in a block that is not the main one of its rule.
-/

namespace HubSpoke

/-! ## Normal forms of spokes -/

/-- The rules hold no more than one value per kind, which is what the hub holds. -/
structure Spoke.Spec.IsNormal (spec : Spec) : Prop where
  overrides : ∀ rule ∈ spec.rules, rule.overrides = []
  values : ∀ rule ∈ spec.rules, ∀ last ∈ spec.last? rule.kind,
    (Routed.ofRule rule).only rule.kind = (Routed.ofRule last).only rule.kind
  mutations : ∀ rule ∈ spec.rules, rule.kind ≠ .mutate →
    ∀ block ∈ rule.mutation, block.mutateExisting = false
  generations : ∀ rule ∈ spec.rules, rule.kind ≠ .generate →
    ∀ block ∈ rule.generation, block.generateExisting = false

namespace Spoke.Spec

variable {spec : Spec} {rule : Rule}

/-- The value supplied for the kind of a rule is that of the last rule of the kind. -/
theorem only_ofSpoke_eq_iff (hrule : rule ∈ spec.rules) :
    (Routed.ofRule rule).only rule.kind = (Routed.ofSpoke spec).only rule.kind ↔
      ∀ last ∈ spec.last? rule.kind,
        (Routed.ofRule rule).only rule.kind = (Routed.ofRule last).only rule.kind := by
  obtain ⟨last, -, -, hlast⟩ := exists_last hrule
  rw [only_ofSpoke_last hlast]
  simp [hlast]

/-- Routing what the rules supply into them changes nothing exactly when they are in normal form. -/
theorem sameData_rerouted_iff :
    sameData (spec.rerouted (Routed.ofSpoke spec)) spec ↔ spec.IsNormal := by
  have hself : sameData (spec.rerouted (Routed.ofSpoke spec)) spec ↔
      spec.rerouted (Routed.ofSpoke spec) = spec :=
    ⟨rerouted_eq_of_sameData, fun heq => decide_eq_true (congrArg unsigned heq)⟩
  rw [hself, rerouted_eq_self_iff]
  simp only [Rule.routeInto_stripped_eq_iff, Routed.ofRule_eq_only_iff]
  constructor
  · intro hrules
    exact ⟨fun rule hrule => (hrules rule hrule).1,
      fun rule hrule => (only_ofSpoke_eq_iff hrule).mp (hrules rule hrule).2.1,
      fun rule hrule => (hrules rule hrule).2.2.1, fun rule hrule => (hrules rule hrule).2.2.2⟩
  · intro hnormal rule hrule
    exact ⟨hnormal.overrides rule hrule,
      (only_ofSpoke_eq_iff hrule).mpr (hnormal.values rule hrule),
      hnormal.mutations rule hrule, hnormal.generations rule hrule⟩

end Spoke.Spec

/-! ## From the hub -/

namespace Hub.Policy

variable {policy : Policy} {down : Converted Spoke.Policy}

/-- What a hub converts to carries an annotation when something was stashed. -/
theorem payload?_convert [Json.FloatReading] (h : policy.convert = .ok down) :
    down.policy.metadata.payload? = none ↔ down.stashed = false := by
  obtain ⟨restored, fresh, plain, -, -, -, rfl⟩ := convert_eq_ok_iff.mp h
  cases hsame : sameData plain.policy policy with
  | true => simp [unstashed]
  | false => simp [stashedUnder, Metadata.stash_eq]

/-- With another spec, a policy holds the same data when the specs do. -/
theorem sameData_spec_iff {spec : Spec} :
    sameData { policy with spec } policy ↔ unsigned spec = unsigned policy.spec := by
  refine decide_eq_true_iff.trans ((Policy.mk.injEq ..).to_iff.trans ?_)
  exact ⟨fun ⟨_, _, hspec, _⟩ => hspec, fun hspec => ⟨rfl, rfl, hspec, rfl⟩⟩

/-- A hub without an annotation is stashed exactly when its spec is not in normal form. -/
theorem stashed_convert_iff [Json.FloatReading] (hreserved : policy.metadata.payload? = none)
    (h : policy.convert = .ok down) : down.stashed = false ↔ policy.spec.IsNormal := by
  obtain ⟨restored, fresh, plain, hrestored, hfresh, hplain, rfl⟩ := convert_eq_ok_iff.mp h
  obtain rfl := Except.ok.inj
    (hrestored.symm.trans (Metadata.stashed_of_payload?_eq_none hreserved))
  -- the hub that is mapped back is not stashed in its turn, so it differs in its spec only
  have hback : (policy.unstashed fresh).mapToHub policy.metadata.withoutPayload none = .ok
      { policy := { policy with spec := fresh.toHub }, restored := false, stashed := false } := by
    refine Spoke.Policy.mapToHub_eq_ok_iff.mpr ⟨_, fresh, rfl, Spec.toSpoke_toHub hfresh, ?_⟩
    simp [sameData, unstashed, Metadata.withoutPayload_eq_self hreserved]
  obtain rfl := Except.ok.inj (hplain.symm.trans hback)
  rw [Bool.not_eq_false', sameData_spec_iff, Spec.unsigned_toHub_iff hfresh]

end Hub.Policy

/-! ## From the spoke -/

/-- A decoded spoke without an annotation converts, and it is stashed, which shows in the
annotation, exactly when its spec is not in normal form. -/
theorem Spoke.Policy.exists_convert_normal [Json.FloatReading] {document : Json}
    {policy : Spoke.Policy} (hdocument : AnyPolicy.ofJson document = .ok (.spoke policy))
    (hreserved : policy.metadata.payload? = none) :
    ∃ up, policy.convert = .ok up ∧ (up.stashed = false ↔ policy.spec.IsNormal) ∧
      (up.policy.metadata.payload? = none ↔ policy.spec.IsNormal) := by
  obtain ⟨part, hdecode, -⟩ := AnyPolicy.spoke_holdsSpec hdocument
  have hmap := mapToHub_none (Spec.readsBack hdecode) policy.metadata.withoutPayload
  refine ⟨_, convert_eq_ok_iff.mpr
    ⟨none, Metadata.stashed_of_payload?_eq_none hreserved, hmap⟩, ?_⟩
  rw [← Spec.sameData_rerouted_iff]
  cases hsame : sameData (policy.spec.rerouted (Routed.ofSpoke policy.spec)) policy.spec with
  | true => simp
  | false => simp [Metadata.stash_eq]

/-- A policy without an annotation is given one exactly when it is not in normal form. -/
theorem stash_needed_iff [Json.FloatReading] :
    (∀ (policy : Hub.Policy) (down : Converted Spoke.Policy),
      policy.metadata.payload? = none → policy.convert = .ok down →
      (down.stashed = false ↔ policy.spec.IsNormal) ∧
      (down.policy.metadata.payload? = none ↔ policy.spec.IsNormal)) ∧
    ∀ (document : Json) (policy : Spoke.Policy),
      AnyPolicy.ofJson document = .ok (.spoke policy) → policy.metadata.payload? = none →
      ∃ up, policy.convert = .ok up ∧ (up.stashed = false ↔ policy.spec.IsNormal) ∧
        (up.policy.metadata.payload? = none ↔ policy.spec.IsNormal) := by
  refine ⟨fun policy down hreserved hconvert => ?_, fun document policy hdocument hreserved => ?_⟩
  · have hstashed := Hub.Policy.stashed_convert_iff hreserved hconvert
    exact ⟨hstashed, (Hub.Policy.payload?_convert hconvert).trans hstashed⟩
  · exact Spoke.Policy.exists_convert_normal hdocument hreserved

/-- A condition that holds of deletions. -/
def Json.onDeletion : Json :=
  .obj [("key", .str "request"), ("operator", .str "Equals"), ("value", .str "DELETE")]

/-- A hub that enforces, with a rule that denies under the given raw conditions. -/
def Json.denyingHub (conditions : Json) : Json :=
  .policyDocument "kyverno.io/v1" []
    [("rules", .arr [.obj [("name", .str "sample"),
      ("validate", .obj [("deny", .obj [("conditions", conditions)])])]]),
     ("validationFailureAction", .str "Enforce")]

/-- Conditions in an object are in normal form and those in a bare list are not; nor are rules with
failure actions of their own. -/
theorem stash_needed_iff_conditions :
    ∃ object list spoke,
      AnyPolicy.ofJson (.denyingHub (.obj [("any", .arr [.onDeletion])])) = .ok (.hub object) ∧
      AnyPolicy.ofJson (.denyingHub (.arr [.onDeletion])) = .ok (.hub list) ∧
      AnyPolicy.ofJson .perRuleSpoke = .ok (.spoke spoke) ∧
      object.spec.IsNormal ∧ ¬ list.spec.IsNormal ∧ ¬ spoke.spec.IsNormal := by
  have hobject : (Json.denyingHub (.obj [("any", .arr [.onDeletion])])).hubConverts
      fun policy down => policy.metadata.payload?.isNone && !down.stashed := by
    decide +kernel
  have hlist : (Json.denyingHub (.arr [.onDeletion])).hubConverts
      fun policy down => policy.metadata.payload?.isNone && down.stashed := by
    decide +kernel
  have hspoke : Json.perRuleSpoke.spokeConverts
      fun policy up => policy.metadata.payload?.isNone && up.stashed := by
    decide +kernel
  obtain ⟨object, down, hdocument, hdown, hplain⟩ := Json.exists_of_hubConverts hobject
  obtain ⟨list, other, hlistDocument, hother, hlossy⟩ := Json.exists_of_hubConverts hlist
  obtain ⟨spoke, up, hspokeDocument, hup, hmixed⟩ := Json.exists_of_spokeConverts hspoke
  rw [Bool.and_eq_true, Option.isNone_iff_eq_none] at hplain hlossy hmixed
  have hobjectNormal := (stash_needed_iff.1 object down hplain.1 hdown).1
  have hlistNormal := (stash_needed_iff.1 list other hlossy.1 hother).1
  obtain ⟨up', hup', hspokeNormal, -⟩ := stash_needed_iff.2 _ spoke hspokeDocument hmixed.1
  obtain rfl := Except.ok.inj (hup.symm.trans hup')
  refine ⟨object, list, spoke, hdocument, hlistDocument, hspokeDocument, ?_, ?_, ?_⟩
  · exact hobjectNormal.mp (by simpa using hplain.2)
  · rw [← hlistNormal, hlossy.2]
    decide
  · rw [← hspokeNormal, hmixed.2]
    decide

end HubSpoke
