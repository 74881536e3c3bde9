import HubSpoke.Proofs.Spoke.Codecs
import HubSpoke.Proofs.Stash.Overlay

/-!
# From the spoke to the hub and back

Mapping a spoke spec to the hub folds nothing, so mapping back finds nothing to fold: each rule
comes back without the values that the hub keeps elsewhere.  Only typed conditions are rendered on
the way, and those of a decoded spec read back.
-/

namespace HubSpoke

/-- A decoded block is typed again from its raw form. -/
theorem ConditionBlock.spelledBy_toRaw {document : Json} {block : ConditionBlock}
    (hdecode : codec.decode document = .ok block) : SpelledBy block.toRaw block :=
  Except.mapError_eq_ok_iff.mpr (codec_lawful.decode_encode hdecode)

namespace Spoke

open Codec.Lawful (builds_of_record)
open Fields (builds_seq builds_map builds_spread decoded_of_optional decoded_of_list)

/-! ## Match blocks -/

theorem ResourceDescription.toSpoke_toHub (d : ResourceDescription) : d.toHub.toSpoke = d := by
  simp [toHub, Hub.ResourceDescription.toSpoke]

theorem ResourceFilter.toSpoke_toHub (f : ResourceFilter) : f.toHub.toSpoke = f := by
  simp [toHub, Hub.ResourceFilter.toSpoke, ResourceDescription.toSpoke_toHub]

theorem MatchBlock.toSpoke_toHub (block : MatchBlock) : block.toHub.toSpoke = block := by
  have hinline : block.toHub.hasInline = false := rfl
  rw [Hub.MatchBlock.toSpoke, hinline]
  simp [toHub, Function.comp_def, ResourceFilter.toSpoke_toHub]

/-! ## Rule blocks -/

theorem Generation.toSpoke_toHub (g : Generation) :
    g.toHub.toSpoke = { g with generateExisting := false } := rfl

theorem Attestation.toSpoke_toHub (a : Attestation) : a.toHub.toSpoke = a := rfl

theorem ImageVerification.toSpoke_toHub (v : ImageVerification) : v.toHub.toSpoke = v := by
  have hsigner : v.toHub.legacyAttestorSet = none := rfl
  rw [Hub.ImageVerification.toSpoke, hsigner]
  simp [toHub, Hub.ImageVerification.allImageReferences, Function.comp_def,
    Attestation.toSpoke_toHub]

variable {document : Json}

theorem Deny.toHub_mapsTo {d : Deny} (hdecode : codec.decode document = .ok d) :
    d.toHub.MapsTo d := by
  obtain ⟨given, hbuild, -⟩ := builds_of_record hdecode
  simp only [builds_map] at hbuild
  obtain ⟨conditions, hconditions, rfl⟩ := hbuild
  refine Option.rel_map_left fun block hblock => ?_
  obtain ⟨_, hdecode⟩ := decoded_of_optional hconditions hblock
  exact ConditionBlock.spelledBy_toRaw hdecode

theorem Validation.toHub_mapsTo {v : Validation} (hdecode : codec.decode document = .ok v) :
    v.toHub.MapsTo { v with action := none, overrides := [] } := by
  obtain ⟨given, hbuild, -⟩ := builds_of_record hdecode
  simp only [builds_seq, builds_map] at hbuild
  obtain ⟨_, -, _, -, _, -, _, -, _, -, _, -, _, -, deny, hdeny, _, -, _, -, rfl⟩ := hbuild
  refine ⟨Option.rel_map_left fun block hblock => ?_, rfl⟩
  obtain ⟨_, hdecode⟩ := decoded_of_optional hdeny hblock
  exact Deny.toHub_mapsTo hdecode

theorem MutationTarget.toHub_mapsTo {t : MutationTarget}
    (hdecode : codec.decode document = .ok t) : t.toHub.MapsTo t := by
  obtain ⟨given, hbuild, -⟩ := builds_of_record hdecode
  simp only [builds_seq, builds_map] at hbuild
  obtain ⟨_, -, _, -, preconditions, hpreconditions, rfl⟩ := hbuild
  refine ⟨Option.rel_map_left fun block hblock => ?_, rfl⟩
  obtain ⟨_, hdecode⟩ := decoded_of_optional hpreconditions hblock
  exact ConditionBlock.spelledBy_toRaw hdecode

theorem Mutation.toHub_mapsTo {m : Mutation} (hdecode : codec.decode document = .ok m) :
    m.toHub.MapsTo { m with mutateExisting := false } := by
  obtain ⟨given, hbuild, -⟩ := builds_of_record hdecode
  simp only [builds_seq, builds_map] at hbuild
  obtain ⟨_, -, targets, htargets, _, -, _, -, _, -, rfl⟩ := hbuild
  refine ⟨List.forall₂_map_left_iff.mpr (List.forall₂_same.mpr fun target htarget => ?_), rfl⟩
  obtain ⟨_, hdecode⟩ := decoded_of_list htargets htarget
  exact MutationTarget.toHub_mapsTo hdecode

/-! ## Rules and specs -/

/-- A decoded rule comes back from the hub as what the two versions share of it. -/
theorem Rule.toHub_mapsTo {rule : Rule} (hdecode : codec.decode document = .ok rule) :
    rule.toHub.MapsTo rule.stripped := by
  obtain ⟨given, hbuild, -⟩ := builds_of_record hdecode
  simp only [builds_seq, builds_map] at hbuild
  obtain ⟨name, -, matchBlock, -, exclude, -, context, -, preconditions, hpreconditions,
    validation, hvalidation, mutation, hmutation, generation, -, verifyImages, -, rfl⟩ := hbuild
  refine ⟨Option.rel_map_left fun block hblock => ?_, ?_, ?_, ?_⟩
  · obtain ⟨_, hdecode⟩ := decoded_of_optional hpreconditions hblock
    exact ConditionBlock.spelledBy_toRaw hdecode
  · cases validation with
    | none => exact .none
    | some block =>
        obtain ⟨_, hdecode⟩ := decoded_of_optional hvalidation rfl
        exact .some (Validation.toHub_mapsTo hdecode)
  · cases mutation with
    | none => exact .none
    | some block =>
        obtain ⟨_, hdecode⟩ := decoded_of_optional hmutation rfl
        exact .some (Mutation.toHub_mapsTo hdecode)
  · simp [toHub, stripped, Function.comp_def, MatchBlock.toSpoke_toHub, Generation.toSpoke_toHub,
      ImageVerification.toSpoke_toHub]

/-- Every rule of a decoded spec was decoded. -/
theorem Spec.decoded_rule {spec : Spec} (hdecode : codec.decode document = .ok spec) {rule : Rule}
    (hrule : rule ∈ spec.rules) : ∃ document, Rule.codec.decode document = .ok rule := by
  obtain ⟨given, hbuild, -⟩ := builds_of_record hdecode
  simp only [builds_seq, builds_map] at hbuild
  obtain ⟨rules, hrules, _, -, _, -, _, -, _, -, _, -, _, -, _, -, rfl⟩ := hbuild
  exact decoded_of_list hrules hrule

theorem Spec.readsBack {spec : Spec} (hdecode : codec.decode document = .ok spec) :
    spec.ReadsBack := by
  intro rule hrule
  obtain ⟨_, hdecode⟩ := spec.decoded_rule hdecode hrule
  exact Rule.toHub_mapsTo hdecode

theorem Rule.toHub_stripped (rule : Rule) : rule.stripped.toHub = rule.toHub := by
  simp only [toHub, stripped, Option.map_map]
  rfl

/-- A spec that reads back comes back with the values its rules supply routed into them. -/
theorem Spec.ReadsBack.toSpoke_toHub {spec : Spec} (h : spec.ReadsBack) :
    spec.toHub.toSpoke = .ok (spec.rerouted (Routed.ofSpoke spec)) := by
  refine Hub.Spec.toSpoke_eq_ok_iff.mpr ⟨spec.rules.map Rule.stripped, ?_, ?_⟩
  · exact List.forall₂_map_left_iff.mpr (List.forall₂_map_right_iff.mpr (List.forall₂_same.mpr h))
  · rw [Hub.Spec.spokeOf, List.map_map]
    rfl

end Spoke

end HubSpoke
