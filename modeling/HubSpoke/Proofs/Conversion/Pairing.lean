import HubSpoke.Proofs.Conversion.HubEdit
import HubSpoke.Proofs.Stash.Units

/-!
# Stashed overrides follow names

A hub has no place for the overrides of its rules, so those of a converted rule come out of the
stash.  The stash is laid over the mapped rules in two passes: the first gives overrides, whatever
else the stash says, and the second gives routed values and may be dropped as a whole.  Neither
changes the outline of a rule, and the second leaves overrides alone.

In both passes a rule is paired by position first, and by name otherwise.  Where the stashed names
are distinct the position makes no difference, so each rule has the overrides stashed under its
name, however the rules were moved, dropped, repeated or added since.
-/

namespace HubSpoke

namespace Spoke

/-- The overrides of a rule are those of the rule of its name in a list, and it has none where no
rule of its name has a block that could hold them. -/
structure Rule.OverridesFrom (rule : Rule) (owners : List Rule) : Prop where
  held {owner : Rule} (howner : owner ∈ owners) (hname : owner.name = rule.name)
    (hvalidates : owner.validation.isSome) : rule.overrides = owner.overrides
  unheld (hnone : ∀ owner ∈ owners, owner.name = rule.name → owner.validation = none) :
    rule.overrides = []

namespace Rule

variable {rule saved : Rule} {owners : List Rule}

theorem outline_stripped : rule.stripped.outline = rule.outline := by
  simp [stripped, outline]

/-! ## One rule -/

/-- Nothing of a rule matters here but its name and its overrides. -/
theorem OverridesFrom.of_eq {other : Rule} (h : rule.OverridesFrom owners)
    (hname : other.name = rule.name) (hoverrides : other.overrides = rule.overrides) :
    other.OverridesFrom owners where
  held howner hother hvalidates :=
    hoverrides.trans (h.held howner (hother.trans hname) hvalidates)
  unheld hnone := hoverrides.trans <| h.unheld fun owner howner hother =>
    hnone owner howner (hother.trans hname.symm)

/-- A rule without an owner of its name has no overrides, if it had none. -/
theorem OverridesFrom.of_forall_ne (hnone : rule.overrides = [])
    (hnames : ∀ owner ∈ owners, owner.name ≠ rule.name) : rule.OverridesFrom owners where
  held howner hname := absurd hname (hnames _ howner)
  unheld _ := hnone

/-- A rule that validates has the overrides of the only owner of its name. -/
theorem OverridesFrom.withOverrides (hnone : rule.overrides = [])
    (hvalidates : rule.validation.isSome) (hsaved : saved ∈ owners)
    (honly : ∀ owner ∈ owners, owner.name = rule.name → owner = saved)
    (hname : saved.name = rule.name) : (rule.withOverrides saved).OverridesFrom owners := by
  have hoverrides : (rule.withOverrides saved).overrides = saved.overrides :=
    overrides_withOverrides hnone fun _ => hvalidates
  constructor
  · intro owner howner hother _
    rw [honly owner howner (hother.trans name_withOverrides), hoverrides]
  · intro hunheld
    have hblock := hunheld saved hsaved (hname.trans name_withOverrides.symm)
    rw [hoverrides, overrides, hblock, Option.map_none, Option.getD_none]

end Rule

/-! ## All rules -/

namespace Spec

variable {fresh restored : Spec} {source : Hub.Spec}

/-- The first pass gives each rule that validates the overrides of its name. -/
theorem overridesFrom_overlayRules (hnone : ∀ rule ∈ fresh.rules, rule.overrides = [])
    (hnames : (restored.rules.map Rule.name).Nodup) {rule : Rule}
    (hrule : rule ∈ overlayRules Rule.withOverrides restored fresh.rules)
    (hvalidates : rule.validation.isSome) : rule.OverridesFrom restored.rules := by
  obtain ⟨⟨mapped, position⟩, hitem, rfl⟩ := List.mem_map.mp hrule
  have hmapped : mapped.overrides = [] := hnone mapped (List.fst_mem_of_mem_zipIdx hitem)
  have hpair := @counterpart?_eq_some_iff _ Rule.name restored.rules
  cases hfound : counterpart? Rule.name restored.rules position mapped.name with
  | none =>
      simp only [hfound]
      refine .of_forall_ne hmapped fun owner howner hname => ?_
      have hother := (hpair hnames position).mpr ⟨howner, hname⟩
      simp [hfound] at hother
  | some saved =>
      obtain ⟨hsaved, hname⟩ := (hpair hnames position).mp hfound
      simp only [hfound] at hvalidates ⊢
      have hblock : mapped.validation.isSome = (mapped.withOverrides saved).validation.isSome :=
        (Rule.sameBlocks_of_stripped (Rule.stripped_withOverrides mapped saved)).validation.symm
      refine .withOverrides hmapped (hblock.trans hvalidates) hsaved ?_ hname
      intro owner howner hother
      exact List.inj_on_of_nodup_map hnames howner hsaved (hother.trans hname.symm)

/-- The second pass changes no overrides, whether it is kept or dropped. -/
theorem exists_overlayRules_of_mem_overlay {rule : Rule}
    (hrule : rule ∈ (fresh.overlay restored source).rules) :
    ∃ first ∈ overlayRules Rule.withOverrides restored fresh.rules,
      first.stripped = rule.stripped ∧ first.overrides = rule.overrides := by
  have hkept (rule saved : Rule) : ((rule.withRouted saved).stripped,
      (rule.withRouted saved).overrides) = (rule.stripped, rule.overrides) := by simp
  have hparts := map_overlayRules (f := fun rule => (rule.stripped, rule.overrides)) hkept restored
    (overlayRules Rule.withOverrides restored fresh.rules)
  have hmem : (rule.stripped, rule.overrides) ∈
      (overlayRules Rule.withOverrides restored fresh.rules).map
        fun rule => (rule.stripped, rule.overrides) := by
    simp only [overlay] at hrule
    split at hrule
    case isTrue =>
      rw [← hparts]
      exact List.mem_map_of_mem hrule
    case isFalse => exact List.mem_map_of_mem hrule
  obtain ⟨first, hfirst, heq⟩ := List.mem_map.mp hmem
  obtain ⟨hstripped, hoverrides⟩ := Prod.mk.inj heq
  exact ⟨first, hfirst, hstripped, hoverrides⟩

/-- A stash of distinct names, laid over a spec without overrides, gives each rule that validates
the overrides of its name. -/
theorem overridesFrom_overlay (hnone : ∀ rule ∈ fresh.rules, rule.overrides = [])
    (hnames : (restored.rules.map Rule.name).Nodup) {rule : Rule}
    (hrule : rule ∈ (fresh.overlay restored source).rules)
    (hvalidates : rule.validation.isSome) : rule.OverridesFrom restored.rules := by
  obtain ⟨first, hfirst, hstripped, hoverrides⟩ := exists_overlayRules_of_mem_overlay hrule
  have hname : rule.name = first.name := by
    rw [← Rule.name_stripped, ← hstripped, Rule.name_stripped]
  have hblock := (Rule.sameBlocks_of_stripped hstripped).validation
  have hfrom := overridesFrom_overlayRules hnone hnames hfirst (hblock.trans hvalidates)
  exact hfrom.of_eq hname hoverrides.symm

end Spec

end Spoke

/-! ## Converted hubs -/

/-- A hub whose reserved annotation holds a spoke with distinct rule names converts to rules of the
outlines that its own rules have, one by one, and each of them that validates has the overrides that
are stashed under its name. -/
theorem stashed_overrides_follow_names [Json.FloatReading] {policy : Hub.Policy}
    {result : Converted Spoke.Policy} {saved : Stashed Spoke.Spec}
    (hstashed : policy.metadata.stashed = .ok (some saved))
    (hnames : (saved.spec.rules.map Spoke.Rule.name).Nodup)
    (hconvert : policy.convert = .ok result) :
    result.policy.spec.rules.map Spoke.Rule.outline = policy.spec.rules.map Hub.Rule.outline ∧
      ∀ rule ∈ result.policy.spec.rules, rule.validation.isSome →
        rule.OverridesFrom saved.spec.rules := by
  obtain ⟨restored, fresh, hrestored, hfresh, hspec⟩ := Hub.Policy.exists_laidOver hconvert
  obtain rfl := Except.ok.inj (hstashed.symm.trans hrestored)
  rw [hspec]
  constructor
  · rw [Spoke.Spec.map_of_stripped (Hub.Policy.stripped_laidOver _ fresh)
      fun _ => Spoke.Rule.outline_stripped, Hub.Spec.outlines_toSpoke hfresh]
  · intro rule hrule hvalidates
    have hnone := Spoke.Spec.overrides_of_rerouted_eq (Hub.Spec.rerouted_toSpoke hfresh)
    exact Spoke.Spec.overridesFrom_overlay hnone hnames hrule hvalidates

/-- A hub whose stash has three rules: two of them stand elsewhere now, one of these twice, the
third has another block, and a rule was added. -/
def Json.shuffledHub : Json :=
  let rule (name : String) : Json := .obj [("name", .str name), ("validate", .obj [])]
  .policyDocument "kyverno.io/v1"
    [(Stashed.annotation, .str ("\x7b\"apiVersion\":\"kyverno.io/v2\",\"spec\":\x7b\"rules\":[" ++
      "\x7b\"name\":\"first\",\"validate\":" ++
        "\x7b\"validationFailureActionOverrides\":[\x7b\"action\":\"Audit\"\x7d]\x7d\x7d," ++
      "\x7b\"name\":\"second\",\"mutate\":\x7b\x7d\x7d," ++
      "\x7b\"name\":\"third\",\"validate\":" ++
        "\x7b\"validationFailureActionOverrides\":[\x7b\"action\":\"Enforce\"\x7d]\x7d\x7d" ++
      "]\x7d\x7d"))]
    [("rules", .arr [rule "third", rule "second", rule "first", rule "added", rule "third"])]

theorem stashed_overrides_follow_names_shuffled :
    ∃ policy result, ∃ saved : Stashed Spoke.Spec,
      AnyPolicy.ofJson Json.shuffledHub = .ok (.hub policy) ∧
      policy.metadata.stashed = .ok (some saved) ∧ policy.convert = .ok result ∧
      (∀ rule ∈ result.policy.spec.rules, rule.validation.isSome →
        rule.OverridesFrom saved.spec.rules) ∧
      result.policy.spec.rules.map (fun rule => (rule.name, rule.overrides)) =
        [("third", [{ action := .enforce }]), ("second", []), ("first", [{ action := .audit }]),
          ("added", []), ("third", [{ action := .enforce }])] := by
  have hrun : Json.shuffledHub.hubConverts fun policy result =>
      (policy.metadata.stashed.any fun restored => restored.any fun (saved : Stashed Spoke.Spec) =>
        decide (saved.spec.rules.map Spoke.Rule.name).Nodup) &&
      decide (result.policy.spec.rules.map (fun rule => (rule.name, rule.overrides)) =
        [("third", [{ action := .enforce }]), ("second", []), ("first", [{ action := .audit }]),
          ("added", []), ("third", [{ action := .enforce }])]) := by
    decide +kernel
  obtain ⟨policy, result, hdocument, hconvert, hasked⟩ := Json.exists_of_hubConverts hrun
  obtain ⟨hany, hrules⟩ := Bool.and_eq_true_iff.mp hasked
  obtain ⟨restored, hrestored, hsaved⟩ := Except.any_iff.mp hany
  obtain ⟨saved, rfl, hnames⟩ := (Option.any_eq_true _ _).mp hsaved
  obtain ⟨-, hfrom⟩ :=
    stashed_overrides_follow_names hrestored (of_decide_eq_true hnames) hconvert
  exact ⟨policy, result, saved, hdocument, hrestored, hconvert, hfrom, of_decide_eq_true hrules⟩

end HubSpoke
