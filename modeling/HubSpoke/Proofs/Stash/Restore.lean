import HubSpoke.Proofs.Spoke.Codecs
import HubSpoke.Proofs.Stash.Overlay

/-!
# What laying a spec's own stash over it brings back

A rule is what the versions share of it, its overrides and its routed values, and nothing else.  So
a stash of the spec brings every rule back, unless the routed values are refused as a whole; then a
rule comes back just when it carries the value that was routed into it.
-/

namespace HubSpoke.Spoke

/-! ## The parts of a rule -/

namespace Rule

/-- The failure actions of a rule in some namespaces. -/
def overrides (rule : Rule) : List ActionOverride :=
  (rule.validation.map Validation.overrides).getD []

variable {rule other : Rule}

/-- A rule is known from what is shared of it, its overrides and its routed values. -/
theorem eq_of_parts (hstripped : rule.stripped = other.stripped)
    (hoverrides : rule.overrides = other.overrides)
    (hrouted : Routed.ofRule rule = Routed.ofRule other) : rule = other := by
  obtain ⟨name, matchBlock, exclude, context, preconditions, validation, mutation, generation,
    verifyImages⟩ := rule
  obtain ⟨name', matchBlock', exclude', context', preconditions', validation', mutation',
    generation', verifyImages'⟩ := other
  simp only [stripped, Rule.mk.injEq] at hstripped
  simp only [Routed.ofRule, Routed.mk.injEq] at hrouted
  obtain ⟨rfl, rfl, rfl, rfl, rfl, hvalidation, hmutation, hgeneration, rfl⟩ := hstripped
  obtain ⟨haction, hmutate, hgenerate⟩ := hrouted
  obtain rfl : validation = validation' := by
    refine Option.eq_of_map_eq hvalidation fun v w hv hw hshared => ?_
    obtain ⟨⟩ := v
    obtain ⟨⟩ := w
    simp_all [overrides]
  obtain rfl : mutation = mutation' := by
    refine Option.eq_of_map_eq hmutation fun m n hm hn hshared => ?_
    obtain ⟨⟩ := m
    obtain ⟨⟩ := n
    simp_all
  obtain rfl : generation = generation' := by
    refine Option.eq_of_map_eq hgeneration fun g h hg hh hshared => ?_
    obtain ⟨⟩ := g
    obtain ⟨⟩ := h
    simp_all
  rfl

/-- The rules have their blocks in the same places. -/
structure SameBlocks (rule other : Rule) : Prop where
  validation : rule.validation.isSome = other.validation.isSome
  mutation : rule.mutation.isSome = other.mutation.isSome
  generation : rule.generation.isSome = other.generation.isSome

theorem sameBlocks_of_stripped (h : rule.stripped = other.stripped) : rule.SameBlocks other where
  validation := by simpa [stripped] using congrArg (fun r => r.validation.isSome) h
  mutation := by simpa [stripped] using congrArg (fun r => r.mutation.isSome) h
  generation := by simpa [stripped] using congrArg (fun r => r.generation.isSome) h

/-! ### After stripping and routing -/

@[simp] theorem name_stripped : rule.stripped.name = rule.name := rfl

@[simp] theorem overrides_stripped : rule.stripped.overrides = [] := by
  cases hvalidation : rule.validation <;> simp [overrides, stripped, hvalidation]

@[simp] theorem ofRule_stripped : Routed.ofRule rule.stripped = {} := by
  cases hvalidation : rule.validation <;> cases hmutation : rule.mutation <;>
    cases hgeneration : rule.generation <;>
      simp [Routed.ofRule, stripped, hvalidation, hmutation, hgeneration]

@[simp] theorem kind_stripped : rule.stripped.kind = rule.kind := by
  simp [kind, stripped]

@[simp] theorem overrides_routeInto (routed : Routed) :
    (routed.routeInto rule).overrides = rule.overrides := by
  cases hkind : rule.kind <;>
    simp [Routed.routeInto, hkind, overrides, Function.comp_def]

/-! ### After replacing floats and dropping signs -/

variable (change : Binary64 → Json)

@[simp] theorem kind_mapFloats : (mapFloats change rule).kind = rule.kind := by
  simp [kind, mapFloats]

@[simp] theorem ofRule_mapFloats : Routed.ofRule (mapFloats change rule) = Routed.ofRule rule := by
  cases hvalidation : rule.validation <;> cases hmutation : rule.mutation <;>
    cases hgeneration : rule.generation <;>
      simp [Routed.ofRule, mapFloats, hvalidation, hmutation, hgeneration]

@[simp] theorem withOverrides_mapFloats :
    rule.withOverrides (mapFloats change other) = rule.withOverrides other := by
  cases hother : other.validation <;> simp [withOverrides, mapFloats, hother]

@[simp] theorem withRouted_mapFloats :
    rule.withRouted (mapFloats change other) = rule.withRouted other := by
  cases hvalidation : other.validation <;> cases hmutation : other.mutation <;>
    cases hgeneration : other.generation <;>
      simp [withRouted, mapFloats, hvalidation, hmutation, hgeneration]

@[simp] theorem kind_unsigned : (unsigned rule).kind = rule.kind := by
  simp [kind, unsigned]

@[simp] theorem overrides_unsigned : (unsigned rule).overrides = rule.overrides := by
  cases hvalidation : rule.validation <;> simp [overrides, unsigned, hvalidation]

@[simp] theorem ofRule_unsigned : Routed.ofRule (unsigned rule) = Routed.ofRule rule := by
  cases hvalidation : rule.validation <;> cases hmutation : rule.mutation <;>
    cases hgeneration : rule.generation <;>
      simp [Routed.ofRule, unsigned, hvalidation, hmutation, hgeneration]

/-! ### After laying a saved rule over it -/

variable {saved : Rule}

@[simp] theorem name_withOverrides : (rule.withOverrides saved).name = rule.name := by
  cases hsaved : saved.validation with
  | none => simp [withOverrides, hsaved]
  | some block => by_cases hempty : block.overrides.isEmpty <;> simp [withOverrides, hsaved, hempty]

/-- A rule takes the overrides of the saved one, if it has a place for them. -/
theorem overrides_withOverrides (hnone : rule.overrides = [])
    (hplace : saved.validation.isSome → rule.validation.isSome) :
    (rule.withOverrides saved).overrides = saved.overrides := by
  cases hsaved : saved.validation with
  | none => simp_all [withOverrides, overrides]
  | some stashed =>
      obtain ⟨block, hblock⟩ := Option.isSome_iff_exists.mp (hplace (by rw [hsaved]; rfl))
      by_cases hempty : stashed.overrides = [] <;>
        simp_all [withOverrides, overrides]

@[simp] theorem overrides_withRouted : (rule.withRouted saved).overrides = rule.overrides := by
  cases hrule : rule.validation <;> cases hsaved : saved.validation <;>
    simp [withRouted, overrides, hrule, hsaved]

theorem ofRule_withRouted (hblocks : rule.SameBlocks saved) :
    Routed.ofRule (rule.withRouted saved) = Routed.ofRule saved := by
  obtain ⟨hvalidation, hmutation, hgeneration⟩ := hblocks
  have haction : (rule.withRouted saved).validation.bind Validation.action =
      saved.validation.bind Validation.action := by
    cases hrule : rule.validation <;> cases hsaved : saved.validation <;>
      simp_all [withRouted]
  have hmutate : (rule.withRouted saved).mutation.any Mutation.mutateExisting =
      saved.mutation.any Mutation.mutateExisting := by
    cases hrule : rule.mutation <;> cases hsaved : saved.mutation <;> simp_all [withRouted]
  have hgenerate : (rule.withRouted saved).generation.any Generation.generateExisting =
      saved.generation.any Generation.generateExisting := by
    cases hrule : rule.generation <;> cases hsaved : saved.generation <;> simp_all [withRouted]
  rw [Routed.ofRule, haction, hmutate, hgenerate, Routed.ofRule]

/-- A rule brings its own overrides back. -/
theorem overrides_restored (routed : Routed) :
    ((routed.routeInto rule.stripped).withOverrides rule).overrides = rule.overrides :=
  overrides_withOverrides (by simp) (sameBlocks_of_stripped (by simp)).validation.trans

/-- A rule brings itself back. -/
theorem restored_eq (routed : Routed) :
    ((routed.routeInto rule.stripped).withOverrides rule).withRouted rule = rule := by
  refine eq_of_parts (by simp) ?_ (ofRule_withRouted (sameBlocks_of_stripped (by simp)))
  rw [overrides_withRouted, overrides_restored]

/-- Without its routed values, a rule brings itself back only where these are the ones that were
routed into it. -/
theorem withOverrides_eq_iff (routed : Routed) :
    (routed.routeInto rule.stripped).withOverrides rule = rule ↔
      Routed.ofRule rule = routed.only rule.kind := by
  have hrouted : Routed.ofRule ((routed.routeInto rule.stripped).withOverrides rule) =
      routed.only rule.kind := by
    rw [ofRule_withOverrides, Routed.ofRule_routeInto _ ofRule_stripped, kind_stripped]
  constructor
  · intro heq
    rw [← hrouted, heq]
  · intro hvalues
    refine eq_of_parts (by simp) (overrides_restored routed) ?_
    rw [hrouted, hvalues]

/-- A rule that carries only what was routed into it carries the value of its kind. -/
theorem ofRule_of_routeInto_eq {routed : Routed} (h : routed.routeInto rule.stripped = rule) :
    Routed.ofRule rule = routed.only rule.kind := by
  have hrouted := Routed.ofRule_routeInto routed (@ofRule_stripped rule)
  rwa [h, kind_stripped] at hrouted

/-- A rule is what was routed into it when it has no overrides and carries only that. -/
theorem routeInto_stripped_eq_iff {routed : Routed} :
    routed.routeInto rule.stripped = rule ↔
      rule.overrides = [] ∧ Routed.ofRule rule = routed.only rule.kind := by
  constructor
  · intro heq
    refine ⟨?_, ofRule_of_routeInto_eq heq⟩
    rw [← heq, overrides_routeInto, overrides_stripped]
  · rintro ⟨hoverrides, hvalues⟩
    refine eq_of_parts (by simp) (by simp [hoverrides]) ?_
    rw [Routed.ofRule_routeInto routed ofRule_stripped, kind_stripped, hvalues]

/-- Routing changes no data, so it changes nothing where it leaves the data alone. -/
theorem routeInto_eq_of_unsigned {routed : Routed}
    (h : unsigned (routed.routeInto rule.stripped) = unsigned rule) :
    routed.routeInto rule.stripped = rule := by
  refine eq_of_parts (by simp) ?_ ?_
  · rw [← overrides_unsigned, h, overrides_unsigned]
  · rw [← ofRule_unsigned, h, ofRule_unsigned]

end Rule

/-! ## Specs -/

namespace Spec

/-- Where the names agree, each rule is changed by the saved one in its place. -/
theorem overlayRules_eq_zipWith {change : Rule → Rule → Rule} {restored : Spec} {rules : List Rule}
    (hnames : rules.map Rule.name = restored.rules.map Rule.name) :
    overlayRules change restored rules = rules.zipWith change restored.rules := by
  have hlength : rules.length = restored.rules.length := by simpa using congrArg List.length hnames
  refine List.ext_getElem (by simp [overlayRules, hlength]) fun i hi hother => ?_
  have hi : i < rules.length := by simpa [overlayRules] using hi
  have hsaved : i < restored.rules.length := hlength ▸ hi
  have hname : restored.rules[i].name = rules[i].name := by
    simpa [hi, hsaved, eq_comm] using congrArg (·[i]?) hnames
  have hcounterpart : counterpart? Rule.name restored.rules i rules[i].name =
      some restored.rules[i] := by
    rw [counterpart?, List.getElem?_eq_getElem hsaved]
    exact if_pos hname
  simp [overlayRules, hcounterpart]

/-- The same spec with its rules changed where the rules saved for them say so. -/
theorem overlayRules_map {change : Rule → Rule → Rule} {restored : Spec} {rules : List Rule}
    {fresh saved : Rule → Rule} (hrestored : restored.rules = rules.map saved)
    (hfresh : ∀ rule, (fresh rule).name = rule.name)
    (hsaved : ∀ rule, (saved rule).name = rule.name) :
    overlayRules change restored (rules.map fresh) =
      rules.map fun rule => change (fresh rule) (saved rule) := by
  have hnames : (rules.map fresh).map Rule.name = restored.rules.map Rule.name := by
    simp [hrestored, hfresh, hsaved]
  rw [overlayRules_eq_zipWith hnames, hrestored, List.zipWith_map, List.zipWith_self]

/-- What stripping leaves alone in every rule is the same in specs that share all else. -/
theorem map_of_stripped {β : Type} {f : Rule → β} {spec other : Spec}
    (h : spec.stripped = other.stripped) (hf : ∀ rule : Rule, f rule.stripped = f rule) :
    spec.rules.map f = other.rules.map f := by
  have hrules := congrArg (fun s => s.rules.map f) h
  simpa [stripped, Function.comp_def, hf] using hrules

theorem kinds_of_stripped {spec other : Spec} (h : spec.stripped = other.stripped) :
    spec.rules.map Rule.kind = other.rules.map Rule.kind :=
  map_of_stripped h fun _ => Rule.kind_stripped

theorem names_of_stripped {spec other : Spec} (h : spec.stripped = other.stripped) :
    spec.rules.map Rule.name = other.rules.map Rule.name :=
  map_of_stripped h fun _ => rfl

/-- The spec as it comes back when its routed values are refused. -/
def reroutedWithOverrides (spec : Spec) (routed : Routed) : Spec :=
  { spec with rules := spec.rules.map fun rule =>
      (routed.routeInto rule.stripped).withOverrides rule }

/-- The routed values are those of the rules: the rules supply them, or each rule carries the one
of its kind. -/
def KeepsRouted (spec : Spec) (routed : Routed) : Prop :=
  Routed.ofSpoke spec = routed ∨
    ∀ rule ∈ spec.rules, Routed.ofRule rule = routed.only rule.kind

instance (spec : Spec) (routed : Routed) : Decidable (spec.KeepsRouted routed) :=
  inferInstanceAs (Decidable (_ ∨ _))

variable {spec : Spec} (change : Binary64 → Json)

theorem rerouted_eq_self_iff {routed : Routed} :
    spec.rerouted routed = spec ↔
      ∀ rule ∈ spec.rules, routed.routeInto rule.stripped = rule := by
  refine Iff.trans ⟨fun h => congrArg Spec.rules h, fun hrules => ?_⟩ List.map_eq_self_iff
  exact congrArg (fun rules => ({ spec with rules } : Spec)) hrules

/-- Rules into which all their values were routed have no overrides. -/
theorem overrides_of_rerouted_eq {routed : Routed} (h : spec.rerouted routed = spec) :
    ∀ rule ∈ spec.rules, rule.overrides = [] := fun rule hrule =>
  (Rule.routeInto_stripped_eq_iff.mp (rerouted_eq_self_iff.mp h rule hrule)).1

theorem reroutedWithOverrides_eq_self_iff {routed : Routed} :
    spec.reroutedWithOverrides routed = spec ↔
      ∀ rule ∈ spec.rules, (routed.routeInto rule.stripped).withOverrides rule = rule := by
  refine Iff.trans ⟨fun h => congrArg Spec.rules h, fun hrules => ?_⟩ List.map_eq_self_iff
  exact congrArg (fun rules => ({ spec with rules } : Spec)) hrules

/-- Routing values into the rules of a spec changes nothing where it leaves the data alone. -/
theorem rerouted_eq_of_sameData {routed : Routed} (h : sameData (spec.rerouted routed) spec) :
    spec.rerouted routed = spec := by
  have hdata : unsigned (spec.rerouted routed) = unsigned spec := of_decide_eq_true h
  have hrules : (spec.rerouted routed).rules.map unsigned = spec.rules.map unsigned :=
    congrArg Spec.rules hdata
  simp only [rerouted, List.map_map, List.map_inj_left, Function.comp_apply] at hrules
  exact rerouted_eq_self_iff.mpr fun rule hrule => Rule.routeInto_eq_of_unsigned (hrules rule hrule)

theorem keepsRouted_of_rerouted_eq {routed : Routed} (h : spec.rerouted routed = spec) :
    spec.KeepsRouted routed :=
  .inr fun rule hrule => Rule.ofRule_of_routeInto_eq (rerouted_eq_self_iff.mp h rule hrule)

/-- Whatever is laid over a spec that holds the values routed into it, they are kept. -/
theorem keepsRouted_overlay {fresh : Spec} {source : Hub.Spec}
    (h : fresh.rerouted (Routed.ofHub source) = fresh) (restored : Spec) :
    (fresh.overlay restored source).KeepsRouted (Routed.ofHub source) := by
  have hparts : (overlayRules Rule.withOverrides restored fresh.rules).map
      (fun rule => (rule.kind, Routed.ofRule rule)) =
        fresh.rules.map fun rule => (rule.kind, Routed.ofRule rule) :=
    map_overlayRules (by simp) _ _
  simp only [overlay]
  split
  case isTrue haccepted => exact .inl haccepted.2
  case isFalse =>
    -- overrides change neither kinds nor routed values, so each rule still carries its own
    refine .inr fun rule hrule => ?_
    have hmem := List.mem_map_of_mem (f := fun rule => (rule.kind, Routed.ofRule rule)) hrule
    rw [hparts] at hmem
    obtain ⟨mapped, hmapped, heq⟩ := List.mem_map.mp hmem
    obtain ⟨hkind, hvalues⟩ := Prod.mk.inj heq
    rw [← hkind, ← hvalues]
    exact Rule.ofRule_of_routeInto_eq (rerouted_eq_self_iff.mp h mapped hmapped)

theorem rules_mapFloats : (mapFloats change spec).rules = spec.rules.map (mapFloats change) := rfl

theorem ofSpoke_mapFloats : Routed.ofSpoke (mapFloats change spec) = Routed.ofSpoke spec := by
  refine Routed.ofRules_congr ?_
  rw [rules_mapFloats, List.map_map]
  exact List.map_congr_left fun rule _ => by simp

/-- A spec whose own stash is laid over it comes back whole, or with its overrides only. -/
theorem overlay_mapFloats (source : Hub.Spec) :
    (spec.rerouted (Routed.ofHub source)).overlay (mapFloats change spec) source =
      if Routed.ofSpoke spec = Routed.ofHub source then spec
      else spec.reroutedWithOverrides (Routed.ofHub source) := by
  have hoverrides : overlayRules Rule.withOverrides (mapFloats change spec)
      (spec.rerouted (Routed.ofHub source)).rules =
        (spec.reroutedWithOverrides (Routed.ofHub source)).rules := by
    rw [rerouted, overlayRules_map (rules_mapFloats change) (by simp) fun _ => rfl]
    simp only [Rule.withOverrides_mapFloats, reroutedWithOverrides]
  -- with the routed values too it is the spec again, so the candidate is judged by the spec itself
  have hcandidate : overlayRules Rule.withRouted (mapFloats change spec)
      (spec.reroutedWithOverrides (Routed.ofHub source)).rules = spec.rules := by
    rw [reroutedWithOverrides, overlayRules_map (rules_mapFloats change) (by simp)
      fun _ => rfl]
    simp [Rule.restored_eq]
  simp only [overlay, hoverrides, hcandidate, ofSpoke_mapFloats]
  by_cases hrouted : Routed.ofSpoke spec = Routed.ofHub source
  · rw [if_pos ⟨hrouted, hrouted⟩, if_pos hrouted]
    rfl
  · rw [if_neg fun h => hrouted h.1, if_neg hrouted]
    rfl

/-- It comes back whole exactly where the source holds its routed values. -/
theorem overlay_mapFloats_eq_iff (source : Hub.Spec) :
    (spec.rerouted (Routed.ofHub source)).overlay (mapFloats change spec) source = spec ↔
      spec.KeepsRouted (Routed.ofHub source) := by
  rw [overlay_mapFloats]
  by_cases hrouted : Routed.ofSpoke spec = Routed.ofHub source
  · simp [hrouted, KeepsRouted]
  · rw [if_neg hrouted, KeepsRouted, or_iff_right hrouted, reroutedWithOverrides_eq_self_iff]
    exact forall₂_congr fun rule _ => Rule.withOverrides_eq_iff _

end Spec

end HubSpoke.Spoke
