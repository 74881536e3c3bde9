import HubSpoke.Mapping.ToHub
import HubSpoke.Proofs.Routing
import HubSpoke.Stash.Overlay

/-!
# What laying a stash over a spec cannot change

A stashed spec may say anything.  Laid over a freshly mapped one it can bring back overrides and
routed values of spoke rules, so everything else, which is what `stripped` keeps, stays as it was
mapped; and the routed values it brings back collect to the same values as before.  A hub rule takes
a unit from the stash only when that unit maps to what the source holds, so the rule still maps to
the same data.
-/

namespace HubSpoke

theorem mem_of_counterpart? {ρ : Type} {nameOf : ρ → String} {stashed : List ρ} {position : Nat}
    {name : String} {rule : ρ} (h : counterpart? nameOf stashed position name = some rule) :
    rule ∈ stashed := by
  rw [counterpart?] at h
  split at h
  case h_1 found hfound =>
    split at h
    · obtain rfl := Option.some.inj h
      exact List.mem_of_getElem? hfound
    · exact List.mem_of_find?_eq_some h
  case h_2 => exact List.mem_of_find?_eq_some h

theorem name_of_counterpart? {ρ : Type} {nameOf : ρ → String} {stashed : List ρ} {position : Nat}
    {name : String} {rule : ρ} (h : counterpart? nameOf stashed position name = some rule) :
    nameOf rule = name := by
  have hfound (hfind : (stashed.find? fun rule => nameOf rule = name) = some rule) :
      nameOf rule = name := by
    simpa using List.find?_some hfind
  rw [counterpart?] at h
  split at h
  case h_1 =>
    split at h
    case isTrue hname =>
      obtain rfl := Option.some.inj h
      exact hname
    case isFalse => exact hfound h
  case h_2 => exact hfound h

/-! ## Spoke rules -/

namespace Spoke

/-- A spec without the routed values and overrides of its rules. -/
def Spec.stripped (s : Spec) : Spec :=
  { s with rules := s.rules.map Rule.stripped }

/-- A spec as a hub that holds these routed values would give it: what the versions share of each
rule, with the value of its kind. -/
def Spec.rerouted (s : Spec) (routed : Routed) : Spec :=
  { s with rules := s.rules.map fun rule => routed.routeInto rule.stripped }

namespace Rule

variable (rule saved : Rule)

@[simp] theorem stripped_stripped : rule.stripped.stripped = rule.stripped := by
  simp [stripped, Function.comp_def]

@[simp] theorem stripped_routeInto (routed : Routed) :
    (routed.routeInto rule).stripped = rule.stripped := by
  cases hkind : rule.kind <;> simp [Routed.routeInto, hkind, stripped, Function.comp_def]

@[simp] theorem stripped_withOverrides : (rule.withOverrides saved).stripped = rule.stripped := by
  cases hsaved : saved.validation with
  | none => simp [withOverrides, hsaved]
  | some block =>
      by_cases hempty : block.overrides.isEmpty <;>
        simp [withOverrides, hsaved, hempty, stripped, Function.comp_def]

@[simp] theorem stripped_withRouted : (rule.withRouted saved).stripped = rule.stripped := by
  cases hvalidation : saved.validation <;> cases hmutation : saved.mutation <;>
    cases hgeneration : saved.generation <;>
      simp [withRouted, stripped, Function.comp_def, hvalidation, hmutation, hgeneration]

@[simp] theorem kind_withOverrides : (rule.withOverrides saved).kind = rule.kind := by
  cases hsaved : saved.validation with
  | none => simp [withOverrides, hsaved]
  | some block =>
      by_cases hempty : block.overrides.isEmpty <;> simp [withOverrides, hsaved, hempty, kind]

@[simp] theorem ofRule_withOverrides :
    Routed.ofRule (rule.withOverrides saved) = Routed.ofRule rule := by
  cases hsaved : saved.validation with
  | none => simp [withOverrides, hsaved]
  | some block =>
      by_cases hempty : block.overrides.isEmpty
      · simp [withOverrides, hsaved, hempty]
      · cases hvalidation : rule.validation <;>
          simp [withOverrides, hsaved, hempty, Routed.ofRule, hvalidation]

end Rule

namespace Spec

@[simp] theorem stripped_rerouted (spec : Spec) (routed : Routed) :
    (spec.rerouted routed).stripped = spec.stripped := by
  simp [rerouted, stripped, Function.comp_def]

theorem rerouted_eq (spec : Spec) (routed : Routed) :
    spec.rerouted routed =
      { spec.stripped with rules := spec.stripped.rules.map routed.routeInto } := by
  simp [rerouted, stripped, Function.comp_def]

theorem rerouted_congr {spec other : Spec} (h : spec.stripped = other.stripped) (routed : Routed) :
    spec.rerouted routed = other.rerouted routed := by
  rw [rerouted_eq, rerouted_eq, h]

/-- What a change leaves alone in every rule, it leaves alone in the list of rules. -/
theorem map_overlayRules {β : Type} {f : Rule → β} {change : Rule → Rule → Rule}
    (h : ∀ rule saved, f (change rule saved) = f rule) (restored : Spec) (rules : List Rule) :
    (overlayRules change restored rules).map f = rules.map f := by
  calc (overlayRules change restored rules).map f = rules.zipIdx.map (f ∘ Prod.fst) := by
        unfold overlayRules
        rw [List.map_map]
        refine List.map_congr_left fun item _ => ?_
        simp only [Function.comp_apply]
        split
        · exact h _ _
        · rfl
    _ = rules.map f := by rw [← List.map_map, List.zipIdx_map_fst]

theorem stripped_overlay (fresh restored : Spec) (source : Hub.Spec) :
    (fresh.overlay restored source).stripped = fresh.stripped := by
  have hrules : (overlayRules Rule.withOverrides restored fresh.rules).map Rule.stripped =
      fresh.rules.map Rule.stripped := map_overlayRules Rule.stripped_withOverrides _ _
  have hcandidate := map_overlayRules Rule.stripped_withRouted restored
    (overlayRules Rule.withOverrides restored fresh.rules)
  simp only [overlay]
  split <;> simp [stripped, hrules, hcandidate]

/-- The rules of the result supply the values of the source, or what they supplied when mapped. -/
theorem ofSpoke_overlay (fresh restored : Spec) (source : Hub.Spec) :
    Routed.ofSpoke (fresh.overlay restored source) = Routed.ofHub source ∨
      Routed.ofSpoke (fresh.overlay restored source) = Routed.ofSpoke fresh := by
  simp only [overlay]
  split
  case isTrue haccepted => exact .inl haccepted.2
  case isFalse => exact .inr (Routed.ofRules_congr (map_overlayRules (by simp) _ _))

end Spec

end Spoke

/-! ## Hub rules -/

namespace Hub

theorem Validation.stripped_of_rel {v : Option Validation} {block : Option Spoke.Validation}
    (h : Option.Rel Validation.MapsTo v block) :
    (block.map fun block => { block with action := none, overrides := [] }) = block := by
  cases h with
  | none => rfl
  | some hblock => rw [hblock.rest]; rfl

theorem Mutation.stripped_of_rel {m : Option Mutation} {block : Option Spoke.Mutation}
    (h : Option.Rel Mutation.MapsTo m block) :
    (block.map fun block => { block with mutateExisting := false }) = block := by
  cases h with
  | none => rfl
  | some hblock => rw [hblock.rest]; rfl

theorem Generation.stripped_of_map (g : Option Generation) :
    ((g.map Generation.toSpoke).map fun block => { block with generateExisting := false }) =
      g.map Generation.toSpoke := by
  cases g <;> rfl

/-- A mapped rule has neither routed values nor overrides. -/
theorem Rule.MapsTo.stripped {r : Rule} {x : Spoke.Rule} (h : r.MapsTo x) : x.stripped = x := by
  have hgeneration : x.generation = r.generation.map Generation.toSpoke := by rw [h.rest]
  rw [Spoke.Rule.stripped, Validation.stripped_of_rel h.validation,
    Mutation.stripped_of_rel h.mutation, hgeneration, Generation.stripped_of_map, ← hgeneration]

theorem restored_unit_eq {α β : Type} [DecidableEq β] {f : α → β} {saved fresh : α}
    {mapped current : β} (hsaved : f saved = mapped) (hfresh : f fresh = current) :
    f (if mapped = current then saved else fresh) = current := by
  split
  case isTrue heq => exact hsaved.trans heq
  case isFalse => exact hfresh

/-- A unit of the stash that maps to the data of the source may stand in for the mapped one. -/
theorem exists_restored_unit {α β : Type} [Unsigned β] [DecidableEq β] {R : α → β → Prop}
    {saved fresh : α} {mapped current : β} (hsaved : R saved mapped) (hfresh : R fresh current) :
    ∃ x, R (if sameData mapped current then saved else fresh) x ∧
      unsigned x = unsigned current := by
  split
  case isTrue hsame => exact ⟨mapped, hsaved, of_decide_eq_true hsame⟩
  case isFalse => exact ⟨current, hfresh, rfl⟩

/-- Restoring units keeps what the rule maps to, up to the data of the restored units. -/
theorem Rule.restoreUnits_mapsTo {fresh saved : Rule} {mapped current : Spoke.Rule}
    (hsaved : saved.MapsTo mapped.stripped) (hfresh : fresh.MapsTo current.stripped) :
    ∃ x, (fresh.restoreUnits saved mapped current).MapsTo x ∧
      unsigned x = unsigned current.stripped := by
  have hmatch : (if mapped.stripped.matchBlock = current.stripped.matchBlock then saved.matchBlock
      else fresh.matchBlock).toSpoke = current.stripped.matchBlock :=
    restored_unit_eq (congrArg Spoke.Rule.matchBlock hsaved.rest.symm)
      (congrArg Spoke.Rule.matchBlock hfresh.rest.symm)
  have hexclude : (if mapped.stripped.exclude = current.stripped.exclude then saved.exclude
      else fresh.exclude).map MatchBlock.toSpoke = current.stripped.exclude :=
    restored_unit_eq (f := Option.map MatchBlock.toSpoke)
      (congrArg Spoke.Rule.exclude hsaved.rest.symm)
      (congrArg Spoke.Rule.exclude hfresh.rest.symm)
  have hname : fresh.name = current.stripped.name := hfresh.name.symm
  have hcontext : fresh.context = current.stripped.context := by rw [hfresh.rest]
  obtain ⟨preconditions, hpreconditions, hpreconditions'⟩ :=
    exists_restored_unit hsaved.preconditions hfresh.preconditions
  obtain ⟨validation, hvalidation, hvalidation'⟩ :=
    exists_restored_unit hsaved.validation hfresh.validation
  obtain ⟨mutation, hmutation, hmutation'⟩ :=
    exists_restored_unit hsaved.mutation hfresh.mutation
  obtain ⟨generation, hgeneration, hgeneration'⟩ :=
    exists_restored_unit (R := fun g x => Option.map Generation.toSpoke g = x)
      (congrArg Spoke.Rule.generation hsaved.rest.symm)
      (congrArg Spoke.Rule.generation hfresh.rest.symm)
  obtain ⟨verifyImages, himages, himages'⟩ :=
    exists_restored_unit (R := fun images x => List.map ImageVerification.toSpoke images = x)
      (congrArg Spoke.Rule.verifyImages hsaved.rest.symm)
      (congrArg Spoke.Rule.verifyImages hfresh.rest.symm)
  refine ⟨{ current.stripped with preconditions, validation, mutation, generation, verifyImages },
    ⟨hpreconditions, hvalidation, hmutation, ?_⟩, ?_⟩
  · simp only [restoreUnits, hmatch, hexclude, hname, hcontext, hgeneration, himages]
  · change { unsigned current.stripped with
      preconditions := unsigned preconditions
      validation := unsigned validation
      mutation := unsigned mutation
      generation := unsigned generation
      verifyImages := unsigned verifyImages } = unsigned current.stripped
    rw [hpreconditions', hvalidation', hmutation', hgeneration', himages']
    rfl

/-- Overlaid rules map to the data of the rules they were mapped from. -/
theorem Spec.overlayRules_mapsTo {fresh : List Rule} {restored : List (Rule × Spoke.Rule)}
    {source : List Spoke.Rule}
    (hfresh : List.Forall₂ (fun r current => r.MapsTo current.stripped) fresh source)
    (hrestored : ∀ pair ∈ restored, pair.1.MapsTo pair.2.stripped) :
    ∃ rules, List.Forall₂ Rule.MapsTo (overlayRules fresh restored source) rules ∧
      rules.map unsigned = source.map fun current => unsigned current.stripped := by
  have hpositions : List.Forall₂ (fun (item : Rule × Nat) current =>
      source[item.2]? = some current ∧ item.1.MapsTo current.stripped) fresh.zipIdx source := by
    refine List.forall₂_of_length_eq_of_get (by simpa using hfresh.length_eq) fun i hi hsource => ?_
    simp only [List.get_eq_getElem, List.getElem_zipIdx, Nat.zero_add]
    have hget := hfresh.get (i := i) (by simpa using hi) hsource
    exact ⟨List.getElem?_eq_getElem hsource, hget⟩
  have hbetween : ∃ rules, List.Forall₂ Rule.MapsTo (overlayRules fresh restored source) rules ∧
      List.Forall₂ (fun current x => unsigned x = unsigned current.stripped) source rules := by
    unfold overlayRules
    simp only [List.forall₂_map_left_iff]
    refine List.exists_between hpositions fun item current hitem => ?_
    obtain ⟨hcurrent, hmaps⟩ := hitem
    rw [hcurrent]
    cases hsaved : counterpart? (fun pair => pair.1.name) restored item.2 item.1.name with
    | none => exact ⟨current.stripped, hmaps, rfl⟩
    | some pair =>
        exact Rule.restoreUnits_mapsTo (hrestored pair (mem_of_counterpart? hsaved)) hmaps
  obtain ⟨rules, hrules, hdata⟩ := hbetween
  refine ⟨rules, hrules, ?_⟩
  rw [← List.forall₂_eq_eq_eq, List.forall₂_map_left_iff, List.forall₂_map_right_iff]
  exact hdata.flip

/-- The rules of a mapped spec, stripped again, are what the rules of the source map to. -/
theorem Spec.toSpoke_stripped {s : Spec} {spec : Spoke.Spec} (h : s.toSpoke = .ok spec) :
    List.Forall₂ (fun r current => r.MapsTo current.stripped) s.rules spec.rules := by
  obtain ⟨typed, htyped, rfl⟩ := Spec.toSpoke_eq_ok_iff.mp h
  refine List.forall₂_map_right_iff.mpr (htyped.imp fun r x hmaps => ?_)
  rwa [Spoke.Rule.stripped_routeInto, hmaps.stripped]

/-- Stripping takes routed values out again. -/
theorem map_stripped_routeInto {rules : List Rule} {typed : List Spoke.Rule}
    (h : List.Forall₂ Rule.MapsTo rules typed) (routed : Routed) :
    (typed.map routed.routeInto).map Spoke.Rule.stripped = typed := by
  rw [List.map_map]
  refine (List.map_congr_left fun x hx => ?_).trans (List.map_id' typed)
  obtain ⟨r, -, hmaps⟩ := List.exists_of_forall₂_right h hx
  simp [hmaps.stripped]

/-- A mapped spec is what the hub gives it. -/
theorem Spec.rerouted_toSpoke {s : Spec} {spec : Spoke.Spec} (h : s.toSpoke = .ok spec) :
    spec.rerouted (Routed.ofHub s) = spec := by
  obtain ⟨typed, htyped, rfl⟩ := Spec.toSpoke_eq_ok_iff.mp h
  have hrules := map_stripped_routeInto htyped (Routed.ofHub s)
  rw [Spoke.Spec.rerouted_eq, Spoke.Spec.stripped]
  simp only [spokeOf, hrules]

end Hub

/-- The conditions of a spoke spec are typed again from their raw form, so that each rule comes back
as what the versions share of it. -/
def Spoke.Spec.ReadsBack (spec : Spec) : Prop :=
  ∀ rule ∈ spec.rules, rule.toHub.MapsTo rule.stripped

namespace Hub

/-- A spec with a stash laid over it still maps to the data of the source. -/
theorem Spec.overlay_toSpoke {restored spec : Spec} {source : Spoke.Spec}
    (hsource : source.ReadsBack)
    (h : source.toHub.overlay restored source = .ok spec) :
    ∃ mapped, spec.toSpoke = .ok mapped ∧ sameData mapped.stripped source.stripped := by
  obtain ⟨remapped, hremapped, heq⟩ := Except.bind_eq_ok_iff.mp h
  have hstash := toSpoke_stripped (Except.mapError_eq_ok_iff.mp hremapped)
  have hfresh : List.Forall₂ (fun r current => Rule.MapsTo r current.stripped) source.toHub.rules
      source.rules :=
    List.forall₂_map_left_iff.mpr (List.forall₂_same.mpr hsource)
  obtain ⟨rules, hrules, hdata⟩ := overlayRules_mapsTo hfresh fun pair hpair =>
    List.forall₂_zip hstash hpair
  obtain rfl := Except.ok.inj heq
  refine ⟨_, Spec.toSpoke_eq_ok_iff.mpr ⟨rules, hrules, rfl⟩, decide_eq_true ?_⟩
  have hunits (routed : Routed) : ((rules.map routed.routeInto).map Spoke.Rule.stripped).map
      unsigned = (source.rules.map Spoke.Rule.stripped).map unsigned := by
    rw [map_stripped_routeInto hrules, hdata, List.map_map]
    rfl
  by_cases hsame : remapped.rules.map Routed.ofRule = source.rules.map Routed.ofRule
  · simp only [if_pos hsame]
    exact congrArg (fun rules => ({ source with rules } : Spoke.Spec)) (hunits _)
  · simp only [if_neg hsame]
    exact congrArg (fun rules => ({ source with rules } : Spoke.Spec)) (hunits _)

end Hub

end HubSpoke
