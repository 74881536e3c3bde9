import HubSpoke.Proofs.Routing

/-!
# Routing and collecting

Routing writes into each rule the value of its kind; collecting reads the values off again, the last
rule of each kind winning.  The two are inverse to each other but for kinds that no rule has: these
have nowhere to put a value, and come back as the default.

A rule may have several blocks.  Only the one that gives it its kind takes part in either direction.
-/

namespace HubSpoke

/-- The rule with the value of a kind taken out of the block it stands in, and all else kept. -/
def Spoke.Rule.without (rule : Rule) : RuleKind → Rule
  | .validate =>
      { rule with validation := rule.validation.map fun block => { block with action := none } }
  | .mutate =>
      { rule with
        mutation := rule.mutation.map fun block => { block with mutateExisting := false } }
  | .generate =>
      { rule with
        generation := rule.generation.map fun block => { block with generateExisting := false } }
  | .verifyImages | .empty => rule

namespace Routed

variable (routed : Routed)

/-! ## Routing twice -/

/-- What is routed last stays. -/
theorem routeInto_routeInto (former : Routed) (rule : Spoke.Rule) :
    routed.routeInto (former.routeInto rule) = routed.routeInto rule := by
  rw [routeInto, kind_routeInto, routeInto, routeInto]
  cases rule.kind <;> simp [Function.comp_def]

/-- Beside the value of its kind nothing in a rule changes. -/
theorem without_routeInto (rule : Spoke.Rule) :
    (routed.routeInto rule).without rule.kind = rule.without rule.kind := by
  cases hkind : rule.kind <;> simp [routeInto, hkind, Spoke.Rule.without, Function.comp_def]

/-- The values that routed rules supply are routed into them already. -/
theorem routeInto_ofRules {rules : List Spoke.Rule} {rule : Spoke.Rule} (hrule : rule ∈ rules) :
    (ofRules (rules.map routed.routeInto)).routeInto (routed.routeInto rule) =
      routed.routeInto rule := by
  rw [routeInto_routeInto]
  refine routeInto_congr ?_
  rw [only_ofRules_map_routeInto, if_pos ⟨rule, hrule, rfl⟩]

/-! ## Collecting from two lists -/

/-- Of two lists the second supplies the values of the kinds it has, and the first the others. -/
theorem only_ofRules_append (rules more : List Spoke.Rule) (kind : RuleKind) :
    (ofRules (rules ++ more)).only kind =
      if ∃ rule ∈ more, rule.kind = kind then (ofRules more).only kind
      else (ofRules rules).only kind := by
  rw [ofRules, List.foldl_append, only_foldl_supplied]
  split
  case h_1 last hlast =>
    have hmem : last ∈ more := List.mem_reverse.mp (List.mem_of_find?_eq_some hlast)
    have hkind : last.kind = kind := by simpa using List.find?_some hlast
    rw [if_pos ⟨last, hmem, hkind⟩, only_ofRules_last hlast]
  case h_2 hnone =>
    rw [if_neg]
    · rfl
    · rintro ⟨rule, hrule, hkind⟩
      exact List.find?_eq_none.mp hnone rule (List.mem_reverse.mpr hrule) (decide_eq_true hkind)

/-- Values routed into rules are collected again for the kinds that some rule has, and the others
are collected as unset.  Routing the same values again, or the collected ones, changes nothing, and
no routing changes anything in a rule but the value of its kind.  Collected from two lists, the
values are those of the second for the kinds it has, and those of the first for the others. -/
theorem collecting_inverts_routing (rules more : List Spoke.Rule) :
    (∀ kind, (ofRules (rules.map routed.routeInto)).only kind =
      if ∃ rule ∈ rules, rule.kind = kind then routed.only kind else {}) ∧
    (rules.map routed.routeInto).map routed.routeInto = rules.map routed.routeInto ∧
    (rules.map routed.routeInto).map (ofRules (rules.map routed.routeInto)).routeInto =
      rules.map routed.routeInto ∧
    (∀ rule, (routed.routeInto rule).kind = rule.kind ∧
      (routed.routeInto rule).without rule.kind = rule.without rule.kind) ∧
    (∀ kind, (ofRules (rules ++ more)).only kind =
      if ∃ rule ∈ more, rule.kind = kind then (ofRules more).only kind
      else (ofRules rules).only kind) := by
  refine ⟨routed.only_ofRules_map_routeInto rules, ?same, ?collected,
    fun rule => ⟨routed.kind_routeInto rule, routed.without_routeInto rule⟩,
    only_ofRules_append rules more⟩
  case same =>
    rw [List.map_map]
    exact List.map_congr_left fun rule _ => routed.routeInto_routeInto routed rule
  case collected =>
    rw [List.map_map]
    exact List.map_congr_left fun rule hrule => routed.routeInto_ofRules hrule

/-- A rule that mutates beside what it validates, and one after it that only mutates. -/
example :
    let rules : List Spoke.Rule := [
      { validation := some { action := some .enforce }
        mutation := some { mutateExisting := true } },
      { mutation := some {} }]
    ofRules rules = { action := some .enforce } ∧ rules.map (ofRules rules).routeInto = rules := by
  decide +kernel

end Routed

end HubSpoke
