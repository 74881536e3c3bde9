import HubSpoke.Proofs.Conversion.RoundTrip
import Mathlib.Data.List.Zip

/-!
# Edits of the hub

A hub cannot hold what the rules of a spoke hold one by one, so a spoke that is stored as a hub
leaves it in the stash.  An edit of the hub keeps it as long as the edit keeps the routed values and
the outline of every rule: its name, and which of the blocks with routed values it has.  Then the
rules are paired one by one, and the restored rules supply what the hub holds, so the values are
accepted.  Where nothing was stashed the values of the spoke are those that are routed in anyway.
-/

namespace HubSpoke

/-! ## Outlines -/

/-- The name of a rule, and which of the blocks with routed values it has. -/
structure RuleOutline where
  name : String
  validates : Bool
  mutates : Bool
  generates : Bool
deriving DecidableEq

def Hub.Rule.outline (rule : Hub.Rule) : RuleOutline where
  name := rule.name
  validates := rule.validation.isSome
  mutates := rule.mutation.isSome
  generates := rule.generation.isSome

def Spoke.Rule.outline (rule : Spoke.Rule) : RuleOutline where
  name := rule.name
  validates := rule.validation.isSome
  mutates := rule.mutation.isSome
  generates := rule.generation.isSome

theorem Spoke.Rule.outline_toHub (rule : Rule) : rule.toHub.outline = rule.outline := by
  simp [toHub, Hub.Rule.outline, outline]

theorem Hub.Rule.MapsTo.outline {r : Rule} {x : Spoke.Rule} (h : r.MapsTo x) :
    x.outline = r.outline := by
  have hgeneration : x.generation.isSome = r.generation.isSome := by rw [h.rest, Option.isSome_map]
  rw [Spoke.Rule.outline, Rule.outline, h.name, Option.isSome_of_rel h.validation,
    Option.isSome_of_rel h.mutation, hgeneration]

theorem Routed.outline_routeInto (routed : Routed) (rule : Spoke.Rule) :
    (routed.routeInto rule).outline = rule.outline := by
  cases hkind : rule.kind <;> simp [routeInto, hkind, Spoke.Rule.outline]

theorem Hub.Spec.outlines_toSpoke {s : Spec} {spec : Spoke.Spec} (h : s.toSpoke = .ok spec) :
    spec.rules.map Spoke.Rule.outline = s.rules.map Rule.outline :=
  map_toSpoke h fun hmaps => (Routed.outline_routeInto _ _).trans hmaps.outline

/-! ## Rules of one outline -/

namespace Spoke.Rule

variable {rule owner : Rule}

theorem sameBlocks_of_outline (h : rule.outline = owner.outline) : rule.SameBlocks owner where
  validation := congrArg RuleOutline.validates h
  mutation := congrArg RuleOutline.mutates h
  generation := congrArg RuleOutline.generates h

theorem SameBlocks.trans {other : Rule} (h : rule.SameBlocks owner)
    (hother : owner.SameBlocks other) :
    rule.SameBlocks other where
  validation := h.validation.trans hother.validation
  mutation := h.mutation.trans hother.mutation
  generation := h.generation.trans hother.generation

/-- Rules with the same blocks are of one kind, but one may verify images where the other does
nothing. -/
theorem SameBlocks.kind_cases (h : rule.SameBlocks owner) :
    rule.kind = owner.kind ∨
      rule.kind ∈ [.verifyImages, .empty] ∧ owner.kind ∈ [.verifyImages, .empty] := by
  simp only [kind, RuleKind.ofBlocks, h.validation, h.mutation, h.generation]
  cases owner.validation.isSome <;> cases owner.mutation.isSome <;>
    cases owner.generation.isSome <;> cases rule.verifyImages.isEmpty <;>
      cases owner.verifyImages.isEmpty <;> decide

theorem SameBlocks.only_kind (h : rule.SameBlocks owner) (routed : Routed) :
    routed.only rule.kind = routed.only owner.kind := by
  rcases h.kind_cases with hkind | ⟨hrule, howner⟩
  · rw [hkind]
  · have hnone : ∀ kind ∈ [RuleKind.verifyImages, .empty], routed.only kind = {} := by
      simp [Routed.only]
    rw [hnone _ hrule, hnone _ howner]

theorem SameBlocks.supplied_eq (h : rule.SameBlocks owner)
    (hvalues : Routed.ofRule rule = Routed.ofRule owner) (routed : Routed) :
    routed.supplied rule = routed.supplied owner := by
  unfold Routed.supplied
  rcases h.kind_cases with hkind | ⟨hrule, howner⟩
  · rw [hkind, hvalues]
  · rcases List.mem_pair.mp hrule with hrule | hrule <;>
      rcases List.mem_pair.mp howner with howner | howner <;> rw [hrule, howner]

@[simp] theorem outline_mapFloats (change : Binary64 → Json) :
    (mapFloats change rule).outline = rule.outline := by
  simp [mapFloats, outline]

@[simp] theorem overrides_mapFloats (change : Binary64 → Json) :
    (mapFloats change rule).overrides = rule.overrides := by
  cases hvalidation : rule.validation <;> simp [mapFloats, overrides, hvalidation]

/-! ### The values of another rule -/

/-- The rule with the failure action, the overrides and the triggers of another one. -/
def withValuesOf (rule owner : Rule) : Rule :=
  { rule with
    validation := rule.validation.map fun block =>
      { block with action := (Routed.ofRule owner).action, overrides := owner.overrides }
    mutation := rule.mutation.map fun block =>
      { block with mutateExisting := (Routed.ofRule owner).mutateExisting }
    generation := rule.generation.map fun block =>
      { block with generateExisting := (Routed.ofRule owner).generateExisting } }

@[simp] theorem outline_withValuesOf : (rule.withValuesOf owner).outline = rule.outline := by
  simp [withValuesOf, outline]

@[simp] theorem stripped_withValuesOf : (rule.withValuesOf owner).stripped = rule.stripped := by
  simp [withValuesOf, stripped, Function.comp_def]

@[simp] theorem withValuesOf_mapFloats (change : Binary64 → Json) :
    rule.withValuesOf (mapFloats change owner) = rule.withValuesOf owner := by
  simp [withValuesOf]

theorem overrides_withValuesOf (h : rule.SameBlocks owner) :
    (rule.withValuesOf owner).overrides = owner.overrides := by
  have hplaces := h.validation
  cases hrule : rule.validation <;> cases howner : owner.validation <;>
    simp_all [withValuesOf, overrides]

theorem ofRule_withValuesOf (h : rule.SameBlocks owner) :
    Routed.ofRule (rule.withValuesOf owner) = Routed.ofRule owner := by
  obtain ⟨hvalidation, hmutation, hgeneration⟩ := h
  have haction : (rule.withValuesOf owner).validation.bind Validation.action =
      owner.validation.bind Validation.action := by
    cases hrule : rule.validation <;> cases howner : owner.validation <;>
      simp_all [withValuesOf, Routed.ofRule]
  have hmutate : (rule.withValuesOf owner).mutation.any Mutation.mutateExisting =
      owner.mutation.any Mutation.mutateExisting := by
    cases hrule : rule.mutation <;> cases howner : owner.mutation <;>
      simp_all [withValuesOf, Routed.ofRule]
  have hgenerate : (rule.withValuesOf owner).generation.any Generation.generateExisting =
      owner.generation.any Generation.generateExisting := by
    cases hrule : rule.generation <;> cases howner : owner.generation <;>
      simp_all [withValuesOf, Routed.ofRule]
  rw [Routed.ofRule, haction, hmutate, hgenerate, Routed.ofRule]

/-- What is laid over a rule of the same outline is what the other rule holds beyond it. -/
theorem withRouted_withOverrides (h : rule.SameBlocks owner) (hoverrides : rule.overrides = []) :
    (rule.withOverrides owner).withRouted owner = rule.withValuesOf owner := by
  have hblocks : (rule.withOverrides owner).SameBlocks owner :=
    (sameBlocks_of_stripped (by simp)).trans h
  refine eq_of_parts (by simp) ?_ ?_
  · rw [overrides_withRouted, overrides_withOverrides hoverrides h.validation.trans,
      overrides_withValuesOf h]
  · rw [ofRule_withRouted hblocks, ofRule_withValuesOf h]

/-- Rules that were both routed into hold the same values already. -/
theorem withValuesOf_eq_self {routed : Routed} (h : rule.SameBlocks owner)
    (hrule : routed.routeInto rule.stripped = rule)
    (howner : routed.routeInto owner.stripped = owner) : rule.withValuesOf owner = rule := by
  have hnone {held : Rule} (hheld : routed.routeInto held.stripped = held) :
      held.overrides = [] := by
    rw [← hheld, overrides_routeInto, overrides_stripped]
  refine eq_of_parts (by simp) ?_ ?_
  · rw [overrides_withValuesOf h, hnone howner, hnone hrule]
  · calc Routed.ofRule (rule.withValuesOf owner) = Routed.ofRule owner := ofRule_withValuesOf h
      _ = routed.only owner.kind := ofRule_of_routeInto_eq howner
      _ = routed.only rule.kind := (h.only_kind routed).symm
      _ = Routed.ofRule rule := (ofRule_of_routeInto_eq hrule).symm

end Spoke.Rule

/-! ## Specs of one outline -/

namespace Spoke.Spec

variable {fresh owner : Spec} {source : Hub.Spec}

/-- The spec with the failure actions, the overrides and the triggers of another one, rule by
rule. -/
def withValuesOf (spec owner : Spec) : Spec :=
  { spec with rules := spec.rules.zipWith Rule.withValuesOf owner.rules }

theorem withValuesOf_mapFloats (change : Binary64 → Json) :
    fresh.withValuesOf (mapFloats change owner) = fresh.withValuesOf owner := by
  simp only [withValuesOf, rules_mapFloats, List.zipWith_map_right, Rule.withValuesOf_mapFloats]

theorem forall₂_of_outlines (h : fresh.rules.map Rule.outline = owner.rules.map Rule.outline) :
    List.Forall₂ Rule.SameBlocks fresh.rules owner.rules := by
  rw [← List.forall₂_eq_eq_eq, List.forall₂_map_left_iff, List.forall₂_map_right_iff] at h
  exact h.imp fun _ _ => Rule.sameBlocks_of_outline

theorem names_of_outlines {rules others : List Rule}
    (h : rules.map Rule.outline = others.map Rule.outline) :
    rules.map Rule.name = others.map Rule.name := by
  simpa [Function.comp_def, Rule.outline] using congrArg (List.map RuleOutline.name) h

/-- Rules with the same blocks supply what the others do once they hold their values. -/
theorem ofRules_withValuesOf {rules owners : List Rule}
    (h : List.Forall₂ Rule.SameBlocks rules owners) :
    Routed.ofRules (rules.zipWith Rule.withValuesOf owners) = Routed.ofRules owners := by
  refine Routed.ofRules_of_forall₂ ?_
  induction h with
  | nil => exact .nil
  | @cons rule other _ _ hblocks _ ih =>
      have hgiven : (rule.withValuesOf other).SameBlocks other :=
        (Rule.sameBlocks_of_outline Rule.outline_withValuesOf).trans hblocks
      exact .cons (hgiven.supplied_eq (Rule.ofRule_withValuesOf hblocks)) ih

/-- A stash whose rules have the outlines of the mapped ones, and supply what the source holds,
gives its values to them. -/
theorem overlay_eq_withValuesOf (hself : fresh.rerouted (Routed.ofHub source) = fresh)
    (houtlines : fresh.rules.map Rule.outline = owner.rules.map Rule.outline)
    (hrouted : Routed.ofSpoke owner = Routed.ofHub source) :
    fresh.overlay owner source = fresh.withValuesOf owner := by
  have hblocks := forall₂_of_outlines houtlines
  have hnames := names_of_outlines houtlines
  have hnone : ∀ rule ∈ fresh.rules, rule.overrides = [] := overrides_of_rerouted_eq hself
  have hoverridden : (overlayRules Rule.withOverrides owner fresh.rules).map Rule.name =
      owner.rules.map Rule.name := by
    rw [map_overlayRules fun _ _ => Rule.name_withOverrides, hnames]
  have hcandidate : overlayRules Rule.withRouted owner
      (overlayRules Rule.withOverrides owner fresh.rules) = (fresh.withValuesOf owner).rules := by
    rw [overlayRules_eq_zipWith hoverridden, overlayRules_eq_zipWith hnames,
      List.zipWith_zipWith_left, List.zipWith3_same_right, withValuesOf]
    have hpairs := (List.forall₂_and_left _ _).mpr ⟨hnone, hblocks⟩
    exact List.zipWith_congr _ _ _ _ (hpairs.imp fun rule other ⟨hrule, hother⟩ =>
      Rule.withRouted_withOverrides hother hrule)
  have haccepted : Routed.ofRules (fresh.withValuesOf owner).rules = Routed.ofHub source :=
    (ofRules_withValuesOf hblocks).trans hrouted
  simp only [overlay, hcandidate]
  exact if_pos ⟨hrouted, haccepted⟩

/-- Specs of one outline that were routed into alike hold the same values already. -/
theorem withValuesOf_eq_self {routed : Routed} (hself : fresh.rerouted routed = fresh)
    (howner : owner.rerouted routed = owner)
    (houtlines : fresh.rules.map Rule.outline = owner.rules.map Rule.outline) :
    fresh.withValuesOf owner = fresh := by
  have hrules : fresh.rules.zipWith Rule.withValuesOf owner.rules = fresh.rules := by
    refine List.ext_getElem ?_ fun i hi hrule => ?_
    · simpa using (congrArg List.length houtlines).le
    · have hother : i < owner.rules.length := by simp at hi; exact hi.2
      rw [List.getElem_zipWith]
      have hblocks := (forall₂_of_outlines houtlines).get hrule hother
      exact Rule.withValuesOf_eq_self hblocks
        (rerouted_eq_self_iff.mp hself _ (List.getElem_mem hrule))
        (rerouted_eq_self_iff.mp howner _ (List.getElem_mem hother))
  rw [withValuesOf, hrules]

end Spoke.Spec

/-! ## Whole conversions -/

/-- What a spoke leaves in the stash gives its values to whatever a hub with its routed values and
its outlines maps to. -/
theorem Spoke.Policy.laidOver_residue_of_outlines [Json.FloatReading] {policy : Spoke.Policy}
    {hub : Hub.Policy} {fresh : Spoke.Spec} (hfresh : hub.spec.toSpoke = .ok fresh)
    (hrouted : Routed.ofSpoke policy.spec = Routed.ofHub hub.spec)
    (houtlines : fresh.rules.map Rule.outline = policy.spec.rules.map Rule.outline) :
    hub.laidOver (policy.residue (policy.spec.rerouted (Routed.ofSpoke policy.spec))) fresh =
      fresh.withValuesOf policy.spec := by
  have hself := Hub.Spec.rerouted_toSpoke hfresh
  rw [residue]
  split
  case isTrue hsame =>
    -- nothing is stashed, because the spoke holds just the values routed into it
    have howner := Spec.rerouted_eq_of_sameData hsame
    rw [hrouted] at howner
    exact (Spec.withValuesOf_eq_self hself howner houtlines).symm
  case isFalse =>
    rw [← Spec.withValuesOf_mapFloats Binary64.respelled]
    refine Spec.overlay_eq_withValuesOf hself ?_ ?_
    · simpa [Spec.rules_mapFloats, Function.comp_def] using houtlines
    · rw [Spec.ofSpoke_mapFloats, hrouted]

/-- A spoke without a reserved annotation converts to a hub.  However the spec of that hub is edited
while its routed values and the outlines of its rules stay, if it maps at all then the hub converts,
and to what it maps to with the failure actions, the overrides and the triggers of the spoke, rule
by rule. -/
theorem spoke_values_survive_hub_edit [Json.FloatReading] {document : Json} {policy : Spoke.Policy}
    (hfits : document.fits .any Json.maxDepth)
    (hdocument : AnyPolicy.ofJson document = .ok (.spoke policy))
    (hreserved : policy.metadata.payload? = none) :
    ∃ up, policy.convert = .ok up ∧ ∀ {edited : Hub.Spec} {fresh : Spoke.Spec},
      Routed.ofHub edited = Routed.ofHub up.policy.spec →
      edited.rules.map Hub.Rule.outline = up.policy.spec.rules.map Hub.Rule.outline →
      edited.toSpoke = .ok fresh →
        ∃ down, ({ up.policy with spec := edited } : Hub.Policy).convert = .ok down ∧
          fresh.rules.map Spoke.Rule.outline = policy.spec.rules.map Spoke.Rule.outline ∧
          down.policy.spec = fresh.withValuesOf policy.spec := by
  obtain ⟨part, hdecode, hpart⟩ := AnyPolicy.spoke_holdsSpec hdocument
  have hreads := Spoke.Spec.readsBack hdecode
  have hmap := Spoke.Policy.mapToHub_none hreads policy.metadata.withoutPayload
  have hconvert := Spoke.Policy.convert_eq_ok_iff.mpr
    ⟨none, Metadata.stashed_of_payload?_eq_none hreserved, hmap⟩
  have hstashed := Spoke.Policy.stashed_of_mapToHub hmap hreads.toSpoke_toHub hdecode
    (hpart (by decide) hfits)
  refine ⟨_, hconvert, fun {edited fresh} hrouted houtlines hfresh => ?_⟩
  -- the edited hub still has the annotation, so the stash that is found is that of the spoke
  obtain ⟨down, hdown, hspec⟩ := @Hub.Policy.exists_convert
    { kind := policy.kind, metadata := _, spec := edited, status := policy.status } _ _ _
    hstashed hfresh
  have hrules : fresh.rules.map Spoke.Rule.outline = policy.spec.rules.map Spoke.Rule.outline := by
    calc fresh.rules.map Spoke.Rule.outline = edited.rules.map Hub.Rule.outline :=
          Hub.Spec.outlines_toSpoke hfresh
      _ = policy.spec.toHub.rules.map Hub.Rule.outline := houtlines
      _ = policy.spec.rules.map Spoke.Rule.outline := by
          simp [Spoke.Spec.toHub, Routed.writeTo, Function.comp_def, Spoke.Rule.outline_toHub]
  refine ⟨down, hdown, hrules, ?_⟩
  rw [hspec]
  exact Spoke.Policy.laidOver_residue_of_outlines hfresh hrouted.symm hrules

/-- The spec with a message in each validation block. -/
def Hub.Spec.withMessage (spec : Spec) (message : String) : Spec :=
  { spec with rules := spec.rules.map fun rule =>
      { rule with validation := rule.validation.map fun block => { block with message } } }

theorem spoke_values_survive_hub_edit_message :
    ∃ policy up fresh down, AnyPolicy.ofJson Json.perRuleSpoke = .ok (.spoke policy) ∧
      policy.convert = .ok up ∧ (up.policy.spec.withMessage "edited").toSpoke = .ok fresh ∧
      ({ up.policy with spec := up.policy.spec.withMessage "edited" } : Hub.Policy).convert =
        .ok down ∧
      down.policy.spec = fresh.withValuesOf policy.spec ∧ down.policy.spec ≠ fresh ∧
      down.policy.spec ≠ policy.spec := by
  have hrun : Json.perRuleSpoke.spokeConverts fun policy up =>
      let edited := up.policy.spec.withMessage "edited"
      policy.metadata.payload?.isNone &&
      decide (Routed.ofHub edited = Routed.ofHub up.policy.spec) &&
      decide (edited.rules.map Hub.Rule.outline = up.policy.spec.rules.map Hub.Rule.outline) &&
      edited.toSpoke.any fun fresh => decide (fresh.withValuesOf policy.spec ≠ fresh ∧
        fresh.withValuesOf policy.spec ≠ policy.spec) := by
    decide +kernel
  obtain ⟨policy, up, hdocument, hup, hasked⟩ := Json.exists_of_spokeConverts hrun
  simp only [Bool.and_eq_true, decide_eq_true_eq, Option.isNone_iff_eq_none] at hasked
  obtain ⟨⟨⟨hreserved, hrouted⟩, houtlines⟩, hmaps⟩ := hasked
  obtain ⟨fresh, hfresh, hchanged⟩ := Except.any_iff.mp hmaps
  obtain ⟨hmapped, hgiven⟩ := of_decide_eq_true hchanged
  obtain ⟨up', hup', hedit⟩ := spoke_values_survive_hub_edit (by decide +kernel) hdocument hreserved
  obtain rfl := Except.ok.inj (hup.symm.trans hup')
  obtain ⟨down, hdown, -, hspec⟩ := hedit hrouted houtlines hfresh
  exact ⟨policy, up, fresh, down, hdocument, hup, hfresh, hdown, hspec, hspec ▸ hmapped,
    hspec ▸ hgiven⟩

end HubSpoke
