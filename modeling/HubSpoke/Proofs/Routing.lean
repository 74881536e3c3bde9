import HubSpoke.Proofs.Mapping.ToSpoke
import Mathlib.Data.List.Induction

/-!
# Routed values, kind by kind

A rule carries the values of its own kind and no others when it was routed into.  Going back, the
last rule of each kind supplies the value of that kind, so routing values into rules and collecting
them again gives them back for every kind that some rule has.
-/

namespace HubSpoke

/-! ## What the kind of a rule says -/

theorem RuleKind.ofBlocks_eq_validate_iff {validates mutates generates verifies : Bool} :
    ofBlocks validates mutates generates verifies = .validate ↔ validates := by
  cases validates <;> cases mutates <;> cases generates <;> cases verifies <;> simp [ofBlocks]

namespace Spoke.Rule

variable {rule : Rule}

theorem validation_of_kind (h : rule.kind = .validate) : ∃ block, rule.validation = some block := by
  refine Option.isSome_iff_exists.mp ?_
  grind [kind, RuleKind.ofBlocks]

theorem mutation_of_kind (h : rule.kind = .mutate) : ∃ block, rule.mutation = some block := by
  refine Option.isSome_iff_exists.mp ?_
  grind [kind, RuleKind.ofBlocks]

theorem generation_of_kind (h : rule.kind = .generate) : ∃ block, rule.generation = some block := by
  refine Option.isSome_iff_exists.mp ?_
  grind [kind, RuleKind.ofBlocks]

theorem validation_eq_none_of_kind (h : rule.kind ≠ .validate) : rule.validation = none :=
  Option.not_isSome_iff_eq_none.mp (mt RuleKind.ofBlocks_eq_validate_iff.mpr h)

end Spoke.Rule

namespace Routed

/-! ## Values by kind -/

/-- The values that rules of a kind carry. -/
def only (routed : Routed) : RuleKind → Routed
  | .validate => { action := routed.action }
  | .mutate => { mutateExisting := routed.mutateExisting }
  | .generate => { generateExisting := routed.generateExisting }
  | .verifyImages | .empty => {}

/-- Values that agree on every kind are the same. -/
theorem eq_of_only {routed other : Routed} (h : ∀ kind, routed.only kind = other.only kind) :
    routed = other := by
  have haction := h .validate
  have hmutate := h .mutate
  have hgenerate := h .generate
  obtain ⟨_, _, _⟩ := routed
  obtain ⟨_, _, _⟩ := other
  simp_all [only]

/-- What a rule carries beside the value of its kind is triggers. -/
theorem ofRule_eq_only_iff (routed : Routed) (rule : Spoke.Rule) :
    ofRule rule = routed.only rule.kind ↔
      (ofRule rule).only rule.kind = routed.only rule.kind ∧
        (rule.kind ≠ .mutate → ∀ block ∈ rule.mutation, block.mutateExisting = false) ∧
        (rule.kind ≠ .generate → ∀ block ∈ rule.generation, block.generateExisting = false) := by
  have haction : rule.kind ≠ .validate → (ofRule rule).action = none := fun hkind => by
    simp [ofRule, Spoke.Rule.validation_eq_none_of_kind hkind]
  have hmutate : (ofRule rule).mutateExisting = false ↔
      ∀ block ∈ rule.mutation, block.mutateExisting = false := by
    cases hblock : rule.mutation <;> simp [ofRule, hblock]
  have hgenerate : (ofRule rule).generateExisting = false ↔
      ∀ block ∈ rule.generation, block.generateExisting = false := by
    cases hblock : rule.generation <;> simp [ofRule, hblock]
  rw [← hmutate, ← hgenerate]
  generalize ofRule rule = carried at haction
  obtain ⟨action, mutateExisting, generateExisting⟩ := carried
  cases hkind : rule.kind <;> simp_all [only, and_comm]

@[simp] theorem ofHub_writeTo (routed : Routed) (spec : Hub.Spec) :
    ofHub (routed.writeTo spec) = routed := rfl

/-! ## Supplying values -/

/-- A rule supplies the value of its kind and leaves the others alone. -/
theorem only_supplied (routed : Routed) (rule : Spoke.Rule) (kind : RuleKind) :
    (routed.supplied rule).only kind =
      if rule.kind = kind then (ofRule rule).only kind else routed.only kind := by
  cases hrule : rule.kind <;> cases kind <;> simp [supplied, hrule, only]

/-- The last rule of a kind supplies its value. -/
theorem only_foldl_supplied (routed : Routed) (rules : List Spoke.Rule) (kind : RuleKind) :
    (rules.foldl supplied routed).only kind =
      match rules.reverse.find? fun rule => rule.kind = kind with
      | some rule => (ofRule rule).only kind
      | none => routed.only kind := by
  induction rules using List.reverseRecOn with
  | nil => rfl
  | append_singleton rules rule ih =>
      -- the last rule supplies after all others, and is the first one found from the end
      rw [List.foldl_append, List.foldl_cons, List.foldl_nil, only_supplied, ih,
        List.reverse_append, List.reverse_singleton, List.singleton_append, List.find?_cons]
      by_cases hkind : rule.kind = kind <;> simp [hkind]

/-- The kind of a rule has a last rule. -/
theorem exists_find?_kind {rules : List Spoke.Rule} {rule : Spoke.Rule} (hrule : rule ∈ rules) :
    ∃ last ∈ rules, last.kind = rule.kind ∧
      (rules.reverse.find? fun other => other.kind = rule.kind) = some last := by
  cases hlast : rules.reverse.find? fun other => other.kind = rule.kind with
  | none =>
      have hnone := List.find?_eq_none.mp hlast rule (List.mem_reverse.mpr hrule)
      simp at hnone
  | some last =>
      exact ⟨last, List.mem_reverse.mp (List.mem_of_find?_eq_some hlast),
        by simpa using List.find?_some hlast, rfl⟩

theorem only_ofRules_last {rules : List Spoke.Rule} {kind : RuleKind} {last : Spoke.Rule}
    (h : (rules.reverse.find? fun rule => rule.kind = kind) = some last) :
    (ofRules rules).only kind = (ofRule last).only kind := by
  rw [ofRules, only_foldl_supplied, h]

/-- No value of a kind is supplied where no rule is of the kind. -/
theorem only_ofRules_of_forall_ne {rules : List Spoke.Rule} {kind : RuleKind}
    (h : ∀ rule ∈ rules, rule.kind ≠ kind) : (ofRules rules).only kind = {} := by
  have hnone : rules.reverse.find? (fun rule => rule.kind = kind) = none :=
    List.find?_eq_none.mpr fun rule hrule => by simpa using h rule (List.mem_reverse.mp hrule)
  rw [ofRules, only_foldl_supplied, hnone]
  cases kind <;> rfl

/-- Rules that supply the same one by one supply the same together. -/
theorem ofRules_of_forall₂ {rules others : List Spoke.Rule}
    (h : List.Forall₂ (fun rule other => ∀ routed : Routed,
      routed.supplied rule = routed.supplied other) rules others) :
    ofRules rules = ofRules others := by
  rw [ofRules, ofRules]
  generalize ({} : Routed) = routed
  induction h generalizing routed with
  | nil => rfl
  | cons hhead _ ih => rw [List.foldl_cons, List.foldl_cons, hhead, ih]

/-- What rules supply depends on their kinds and values only. -/
theorem ofRules_congr {rules others : List Spoke.Rule}
    (h : rules.map (fun rule => (rule.kind, ofRule rule)) =
      others.map fun rule => (rule.kind, ofRule rule)) : ofRules rules = ofRules others := by
  rw [← List.forall₂_eq_eq_eq, List.forall₂_map_left_iff, List.forall₂_map_right_iff] at h
  refine ofRules_of_forall₂ (h.imp fun rule other heq routed => ?_)
  obtain ⟨hkind, hvalues⟩ := Prod.mk.inj heq
  simp only [supplied, hkind, hvalues]

/-! ## Routing into rules -/

@[simp] theorem kind_routeInto (routed : Routed) (rule : Spoke.Rule) :
    (routed.routeInto rule).kind = rule.kind := by
  cases hkind : rule.kind <;> simp_all [routeInto, Spoke.Rule.kind]

@[simp] theorem name_routeInto (routed : Routed) (rule : Spoke.Rule) :
    (routed.routeInto rule).name = rule.name := by
  cases hkind : rule.kind <;> simp [routeInto, hkind]

/-- Only the value of its kind is routed into a rule. -/
theorem routeInto_congr {routed other : Routed} {rule : Spoke.Rule}
    (h : routed.only rule.kind = other.only rule.kind) :
    routed.routeInto rule = other.routeInto rule := by
  cases hkind : rule.kind <;> simp_all [routeInto, only]

/-- A rule without routed values receives those of its kind. -/
theorem ofRule_routeInto (routed : Routed) {rule : Spoke.Rule} (h : ofRule rule = {}) :
    ofRule (routed.routeInto rule) = routed.only rule.kind := by
  obtain ⟨haction, hmutate, hgenerate⟩ := Routed.mk.inj h
  cases hkind : rule.kind with
  | validate =>
      obtain ⟨block, hblock⟩ := Spoke.Rule.validation_of_kind hkind
      simp [routeInto, hkind, only, ofRule, hblock, hmutate, hgenerate]
  | mutate =>
      obtain ⟨block, hblock⟩ := Spoke.Rule.mutation_of_kind hkind
      simp [routeInto, hkind, only, ofRule, hblock, haction, hgenerate]
  | generate =>
      obtain ⟨block, hblock⟩ := Spoke.Rule.generation_of_kind hkind
      simp [routeInto, hkind, only, ofRule, hblock, haction, hmutate]
  | verifyImages | empty => simp [routeInto, hkind, only, h]

/-- Whatever a rule held before, it holds the value of its kind once that was routed into it. -/
theorem only_ofRule_routeInto (routed : Routed) (rule : Spoke.Rule) :
    (ofRule (routed.routeInto rule)).only rule.kind = routed.only rule.kind := by
  cases hkind : rule.kind with
  | validate =>
      obtain ⟨block, hblock⟩ := Spoke.Rule.validation_of_kind hkind
      simp [routeInto, hkind, only, ofRule, hblock]
  | mutate =>
      obtain ⟨block, hblock⟩ := Spoke.Rule.mutation_of_kind hkind
      simp [routeInto, hkind, only, ofRule, hblock]
  | generate =>
      obtain ⟨block, hblock⟩ := Spoke.Rule.generation_of_kind hkind
      simp [routeInto, hkind, only, ofRule, hblock]
  | verifyImages | empty => rfl

/-- Rules that were routed into supply what was routed, for every kind that one of them has. -/
theorem only_ofRules_map_routeInto (routed : Routed) (rules : List Spoke.Rule) (kind : RuleKind) :
    (ofRules (rules.map routed.routeInto)).only kind =
      if ∃ rule ∈ rules, rule.kind = kind then routed.only kind else {} := by
  split
  case isTrue hexists =>
    obtain ⟨rule, hrule, rfl⟩ := hexists
    obtain ⟨last, hlast, hkind, hfind⟩ :=
      exists_find?_kind (List.mem_map_of_mem (f := routed.routeInto) hrule)
    rw [kind_routeInto] at hkind hfind
    obtain ⟨origin, -, rfl⟩ := List.mem_map.mp hlast
    have horigin : origin.kind = rule.kind := (kind_routeInto _ _).symm.trans hkind
    rw [only_ofRules_last hfind, ← horigin, only_ofRule_routeInto]
  case isFalse hnone =>
    refine only_ofRules_of_forall_ne fun rule hrule hkind => hnone ?_
    obtain ⟨origin, horigin, rfl⟩ := List.mem_map.mp hrule
    exact ⟨origin, horigin, (kind_routeInto _ _).symm.trans hkind⟩

end Routed

/-! ## Mapped rules -/

namespace Hub

variable {r : Rule} {x : Spoke.Rule}

theorem Rule.MapsTo.name (h : r.MapsTo x) : x.name = r.name := by
  rw [h.rest]

theorem Rule.MapsTo.kind (h : r.MapsTo x) : x.kind = r.kind := by
  have hvalidation := Option.isSome_of_rel h.validation
  have hmutation := Option.isSome_of_rel h.mutation
  have hgeneration : x.generation.isSome = r.generation.isSome := by
    rw [h.rest, Option.isSome_map]
  have himages : x.verifyImages.isEmpty = r.verifyImages.isEmpty := by
    rw [h.rest, List.isEmpty_map]
  rw [Spoke.Rule.kind, Rule.kind, hvalidation, hmutation, hgeneration, himages]

theorem Validation.action_of_rel {v : Option Validation} {block : Option Spoke.Validation}
    (h : Option.Rel Validation.MapsTo v block) : block.bind Spoke.Validation.action = none := by
  cases h with
  | none => rfl
  | some hblock => exact congrArg Spoke.Validation.action hblock.rest

theorem Mutation.trigger_of_rel {m : Option Mutation} {block : Option Spoke.Mutation}
    (h : Option.Rel Mutation.MapsTo m block) :
    block.any Spoke.Mutation.mutateExisting = false := by
  cases h with
  | none => rfl
  | some hblock => exact congrArg Spoke.Mutation.mutateExisting hblock.rest

theorem Generation.trigger_of_map (g : Option Generation) :
    (g.map Generation.toSpoke).any Spoke.Generation.generateExisting = false := by
  cases g <;> rfl

/-- A mapped rule has no routed values yet. -/
theorem Rule.MapsTo.ofRule_eq (h : r.MapsTo x) : Routed.ofRule x = {} := by
  have hgeneration : x.generation = r.generation.map Generation.toSpoke := by rw [h.rest]
  rw [Routed.ofRule, Validation.action_of_rel h.validation, Mutation.trigger_of_rel h.mutation,
    hgeneration, Generation.trigger_of_map]

/-- What mapping and routing leave alone in every rule, they leave alone in the list of rules. -/
theorem Spec.map_toSpoke {β : Type} {f : Spoke.Rule → β} {g : Rule → β} {s : Spec}
    {spec : Spoke.Spec} (h : s.toSpoke = .ok spec)
    (hrule : ∀ {r x}, r.MapsTo x → f ((Routed.ofHub s).routeInto x) = g r) :
    spec.rules.map f = s.rules.map g := by
  obtain ⟨rules, hrules, rfl⟩ := Spec.toSpoke_eq_ok_iff.mp h
  rw [← List.forall₂_eq_eq_eq, List.forall₂_map_left_iff, List.forall₂_map_right_iff, spokeOf,
    List.forall₂_map_left_iff]
  exact hrules.flip.imp fun _ _ hmaps => hrule hmaps

theorem Spec.kinds_toSpoke {s : Spec} {spec : Spoke.Spec} (h : s.toSpoke = .ok spec) :
    spec.rules.map Spoke.Rule.kind = s.rules.map Rule.kind :=
  map_toSpoke h fun hmaps => (Routed.kind_routeInto _ _).trans hmaps.kind

/-- A rule of a mapped spec comes from one of its kind. -/
theorem Spec.exists_kind_toSpoke {s : Spec} {spec : Spoke.Spec} (h : s.toSpoke = .ok spec)
    {rule : Spoke.Rule} (hrule : rule ∈ spec.rules) : ∃ r ∈ s.rules, r.kind = rule.kind := by
  have hmem : rule.kind ∈ spec.rules.map Spoke.Rule.kind := List.mem_map_of_mem hrule
  rw [kinds_toSpoke h] at hmem
  exact List.mem_map.mp hmem

theorem Spec.names_toSpoke {s : Spec} {spec : Spoke.Spec} (h : s.toSpoke = .ok spec) :
    spec.rules.map Spoke.Rule.name = s.rules.map Rule.name :=
  map_toSpoke h fun hmaps => (Routed.name_routeInto _ _).trans hmaps.name

/-- Every kind of rule a hub spec has gets back the value that was routed into it. -/
theorem Spec.only_ofSpoke {s : Spec} {spec : Spoke.Spec} (h : s.toSpoke = .ok spec) {rule : Rule}
    (hrule : rule ∈ s.rules) :
    (Routed.ofSpoke spec).only rule.kind = (Routed.ofHub s).only rule.kind := by
  obtain ⟨rules, hrules, rfl⟩ := Spec.toSpoke_eq_ok_iff.mp h
  obtain ⟨x, hx, hmaps⟩ := List.exists_of_forall₂_left hrules hrule
  exact (Routed.only_ofRules_map_routeInto (Routed.ofHub s) rules rule.kind).trans
    (if_pos ⟨x, hx, hmaps.kind⟩)

/-- A mapped spec supplies no value of a kind that no rule has. -/
theorem Spec.only_ofSpoke_of_forall_ne {s : Spec} {spec : Spoke.Spec} (h : s.toSpoke = .ok spec)
    {kind : RuleKind} (hnone : ∀ rule ∈ s.rules, rule.kind ≠ kind) :
    (Routed.ofSpoke spec).only kind = {} := by
  refine Routed.only_ofRules_of_forall_ne fun rule hrule hkind => ?_
  obtain ⟨r, hr, hsame⟩ := exists_kind_toSpoke h hrule
  exact hnone r hr (hsame.trans hkind)

end Hub

end HubSpoke
