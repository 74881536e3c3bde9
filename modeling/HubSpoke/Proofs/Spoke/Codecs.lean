import HubSpoke.Spoke.Policy
import HubSpoke.Proofs.Policy.Codecs

/-!
# Codecs of the spoke

The codecs of spoke specs and of the records inside them are lawful.
-/

namespace HubSpoke.Spoke

open Fields (builds_seq builds_map builds_spread Echoes)

/-! ## Match blocks -/

theorem ResourceDescription.codec_plain : ResourceDescription.codec.Plain 5 := by
  apply Codec.Lawful.record
  · intro change given value hbuild
    simp only [builds_seq, builds_map] at hbuild
    obtain ⟨kinds, hkinds, names, hnames, namespaces, hnamespaces, annotations, hannotations,
      selector, hselector, namespaceSelector, hnamespaceSelector, operations, hoperations,
      rfl⟩ := hbuild
    exact (Echoes.plainList .text hkinds).map
      |>.seq (.plainList .text hnames)
      |>.seq (.plainList .text hnamespaces)
      |>.seq (.textMap hannotations)
      |>.seq (.plainOptional LabelSelector.codec_plain hselector)
      |>.seq (.plainOptional LabelSelector.codec_plain hnamespaceSelector)
      |>.seq (.plainList AdmissionOperation.codec_plain hoperations)
  · decide

theorem ResourceFilter.codec_plain : ResourceFilter.codec.Plain 6 := by
  apply Codec.Lawful.record
  · intro change given value hbuild
    simp only [builds_seq, builds_map, builds_spread] at hbuild
    obtain ⟨user, huser, resources, hresources, rfl⟩ := hbuild
    exact (Echoes.spread (UserInfo.fields_echo huser)).map
      |>.seq (.hidden ResourceDescription.codec_plain hresources)
  · decide

theorem MatchBlock.codec_plain : MatchBlock.codec.Plain 8 := by
  apply Codec.Lawful.record
  · intro change given value hbuild
    simp only [builds_seq, builds_map] at hbuild
    obtain ⟨any, hany, all, hall, rfl⟩ := hbuild
    exact (Echoes.plainList ResourceFilter.codec_plain hany).map
      |>.seq (.plainList ResourceFilter.codec_plain hall)
  · decide

/-! ## Rules -/

instance : HoldsFloats Deny where
  mapFloats change d := { conditions := mapFloats change d.conditions }
  mapFloats_float d := by simp only [mapFloats_float]

instance : KnownByData Deny :=
  .ofParts (fun d => d.conditions) fun _ conditions => { conditions }

theorem Deny.codec_lawful : Deny.codec.Lawful mapFloats 4 := by
  apply Codec.Lawful.record
  · intro change given value hbuild
    simp only [builds_map] at hbuild
    obtain ⟨conditions, hconditions, rfl⟩ := hbuild
    exact (Echoes.optional ConditionBlock.codec_lawful hconditions).map
  · decide

instance : HoldsFloats Validation where
  mapFloats change v := { v with
    manifests := mapFloats change v.manifests
    forEach := mapFloats change v.forEach
    pattern := mapFloats change v.pattern
    anyPattern := mapFloats change v.anyPattern
    deny := mapFloats change v.deny
    podSecurity := mapFloats change v.podSecurity
    cel := mapFloats change v.cel }
  mapFloats_float v := by simp only [mapFloats_float]

instance : KnownByData Validation :=
  .ofParts (fun v =>
      (v.manifests, v.forEach, v.pattern, v.anyPattern, v.deny, v.podSecurity, v.cel))
    fun v (manifests, forEach, pattern, anyPattern, deny, podSecurity, cel) =>
      { v with manifests, forEach, pattern, anyPattern, deny, podSecurity, cel }

theorem Validation.codec_lawful : Validation.codec.Lawful mapFloats 7 := by
  apply Codec.Lawful.record
  · intro change given value hbuild
    simp only [builds_seq, builds_map] at hbuild
    obtain ⟨action, haction, overrides, hoverrides, message, hmessage, manifests, hmanifests,
      forEach, hforEach, pattern, hpattern, anyPattern, hanyPattern, deny, hdeny, podSecurity,
      hpodSecurity, cel, hcel, rfl⟩ := hbuild
    exact (Echoes.plainOptional FailureAction.codec_plain haction).map
      |>.seq (.plainList ActionOverride.codec_plain hoverrides)
      |>.seq (.text hmessage)
      |>.seq (.optional .json hmanifests)
      |>.seq (.list .json hforEach)
      |>.seq (.optional .json hpattern)
      |>.seq (.optional .json hanyPattern)
      |>.seq (.optional Deny.codec_lawful hdeny)
      |>.seq (.optional .json hpodSecurity)
      |>.seq (.optional .json hcel)
  · decide

instance : HoldsFloats MutationTarget where
  mapFloats change t := { t with
    context := mapFloats change t.context
    preconditions := mapFloats change t.preconditions }
  mapFloats_float t := by simp only [mapFloats_float]

instance : KnownByData MutationTarget :=
  .ofParts (fun t => (t.context, t.preconditions))
    fun t (context, preconditions) => { t with context, preconditions }

theorem MutationTarget.codec_lawful : MutationTarget.codec.Lawful mapFloats 4 := by
  apply Codec.Lawful.record
  · intro change given value hbuild
    simp only [builds_seq, builds_map, builds_spread] at hbuild
    obtain ⟨resource, hresource, context, hcontext, preconditions, hpreconditions, rfl⟩ := hbuild
    exact (Echoes.spread (ResourceReference.fields_echo hresource)).map
      |>.seq (.list .json hcontext)
      |>.seq (.optional ConditionBlock.codec_lawful hpreconditions)
  · decide

instance : HoldsFloats Mutation where
  mapFloats change m := { m with
    targets := mapFloats change m.targets
    patchStrategicMerge := mapFloats change m.patchStrategicMerge
    forEach := mapFloats change m.forEach }
  mapFloats_float m := by simp only [mapFloats_float]

instance : KnownByData Mutation :=
  .ofParts (fun m => (m.targets, m.patchStrategicMerge, m.forEach))
    fun m (targets, patchStrategicMerge, forEach) =>
      { m with targets, patchStrategicMerge, forEach }

theorem Mutation.codec_lawful : Mutation.codec.Lawful mapFloats 6 := by
  apply Codec.Lawful.record
  · intro change given value hbuild
    simp only [builds_seq, builds_map] at hbuild
    obtain ⟨mutateExisting, hmutateExisting, targets, htargets, patchStrategicMerge,
      hpatchStrategicMerge, patchesJson6902, hpatchesJson6902, forEach, hforEach, rfl⟩ := hbuild
    exact (Echoes.flag hmutateExisting).map
      |>.seq (.list MutationTarget.codec_lawful htargets)
      |>.seq (.optional .json hpatchStrategicMerge)
      |>.seq (.text hpatchesJson6902)
      |>.seq (.list .json hforEach)
  · decide

instance : HoldsFloats Generation where
  mapFloats change g := { g with data := mapFloats change g.data }
  mapFloats_float g := by simp only [mapFloats_float]

instance : KnownByData Generation :=
  .ofParts (fun g => g.data) fun g data => { g with data }

theorem Generation.codec_lawful : Generation.codec.Lawful mapFloats 6 := by
  apply Codec.Lawful.record
  · intro change given value hbuild
    simp only [builds_seq, builds_map, builds_spread] at hbuild
    obtain ⟨generateExisting, hgenerateExisting, resource, hresource, synchronize, hsynchronize,
      orphanDownstreamOnPolicyDelete, horphanDownstreamOnPolicyDelete, data, hdata, clone,
      hclone, cloneList, hcloneList, rfl⟩ := hbuild
    exact (Echoes.flag hgenerateExisting).map
      |>.seq (.spread (ResourceReference.fields_echo hresource))
      |>.seq (.flag hsynchronize)
      |>.seq (.flag horphanDownstreamOnPolicyDelete)
      |>.seq (.optional .json hdata)
      |>.seq (.plainOptional CloneSource.codec_plain hclone)
      |>.seq (.plainOptional CloneList.codec_plain hcloneList)
  · decide

instance : HoldsFloats Attestation where
  mapFloats change a := { a with
    attestors := mapFloats change a.attestors
    conditions := mapFloats change a.conditions }
  mapFloats_float a := by simp only [mapFloats_float]

instance : KnownByData Attestation :=
  .ofParts (fun a => (a.attestors, a.conditions))
    fun a (attestors, conditions) => { a with attestors, conditions }

theorem Attestation.codec_lawful : Attestation.codec.Lawful mapFloats 7 := by
  apply Codec.Lawful.record
  · intro change given value hbuild
    simp only [builds_seq, builds_map] at hbuild
    obtain ⟨type, htype, attestors, hattestors, conditions, hconditions, rfl⟩ := hbuild
    exact (Echoes.text htype).map
      |>.seq (.list AttestorSet.codec_lawful hattestors)
      |>.seq (.list ConditionBlock.codec_lawful hconditions)
  · decide

instance : HoldsFloats ImageVerification where
  mapFloats change v := { v with
    attestors := mapFloats change v.attestors
    attestations := mapFloats change v.attestations }
  mapFloats_float v := by simp only [mapFloats_float]

instance : KnownByData ImageVerification :=
  .ofParts (fun v => (v.attestors, v.attestations))
    fun v (attestors, attestations) => { v with attestors, attestations }

theorem ImageVerification.codec_lawful : ImageVerification.codec.Lawful mapFloats 9 := by
  apply Codec.Lawful.record
  · intro change given value hbuild
    simp only [builds_seq, builds_map] at hbuild
    obtain ⟨type, htype, imageReferences, himageReferences, skipImageReferences,
      hskipImageReferences, attestors, hattestors, attestations, hattestations, repository,
      hrepository, mutateDigest, hmutateDigest, verifyDigest, hverifyDigest, required, hrequired,
      imageRegistryCredentials, himageRegistryCredentials, useCache, huseCache, rfl⟩ := hbuild
    exact (Echoes.plainOptional SignatureFormat.codec_plain htype).map
      |>.seq (.plainList .text himageReferences)
      |>.seq (.plainList .text hskipImageReferences)
      |>.seq (.list AttestorSet.codec_lawful hattestors)
      |>.seq (.list Attestation.codec_lawful hattestations)
      |>.seq (.text hrepository)
      |>.seq (.shown (.bool true) .flag hmutateDigest rfl rfl)
      |>.seq (.shown (.bool true) .flag hverifyDigest rfl rfl)
      |>.seq (.shown (.bool true) .flag hrequired rfl rfl)
      |>.seq (.plainOptional RegistryCredentials.codec_plain himageRegistryCredentials)
      |>.seq (.shown (.bool true) .flag huseCache rfl rfl)
  · decide

instance : HoldsFloats Rule where
  mapFloats change r := { r with
    context := mapFloats change r.context
    preconditions := mapFloats change r.preconditions
    validation := mapFloats change r.validation
    mutation := mapFloats change r.mutation
    generation := mapFloats change r.generation
    verifyImages := mapFloats change r.verifyImages }
  mapFloats_float r := by simp only [mapFloats_float]

instance : KnownByData Rule :=
  .ofParts (fun r =>
      (r.context, r.preconditions, r.validation, r.mutation, r.generation, r.verifyImages))
    fun r (context, preconditions, validation, mutation, generation, verifyImages) =>
      { r with context, preconditions, validation, mutation, generation, verifyImages }

theorem Rule.codec_lawful : Rule.codec.Lawful mapFloats 11 := by
  apply Codec.Lawful.record
  · intro change given value hbuild
    simp only [builds_seq, builds_map] at hbuild
    obtain ⟨name, hname, matchBlock, hmatchBlock, exclude, hexclude, context, hcontext,
      preconditions, hpreconditions, validation, hvalidation, mutation, hmutation, generation,
      hgeneration, verifyImages, hverifyImages, rfl⟩ := hbuild
    exact (Echoes.shown (.str "") .text hname rfl rfl).map
      |>.seq (.shown (.obj []) MatchBlock.codec_plain hmatchBlock rfl rfl)
      |>.seq (.plainOptional MatchBlock.codec_plain hexclude)
      |>.seq (.list .json hcontext)
      |>.seq (.optional ConditionBlock.codec_lawful hpreconditions)
      |>.seq (.optional Validation.codec_lawful hvalidation)
      |>.seq (.optional Mutation.codec_lawful hmutation)
      |>.seq (.optional Generation.codec_lawful hgeneration)
      |>.seq (.list ImageVerification.codec_lawful hverifyImages)
  · decide

/-! ## Specs -/

instance : HoldsFloats Spec where
  mapFloats change s := { s with rules := mapFloats change s.rules }
  mapFloats_float s := by simp only [mapFloats_float]

instance : KnownByData Spec :=
  .ofParts (fun s => s.rules) fun s rules => { s with rules }

theorem Spec.codec_lawful : Spec.codec.Lawful mapFloats 13 := by
  apply Codec.Lawful.record
  · intro change given value hbuild
    simp only [builds_seq, builds_map] at hbuild
    obtain ⟨rules, hrules, applyRules, happlyRules, failurePolicy, hfailurePolicy, admission,
      hadmission, background, hbackground, webhookTimeoutSeconds, hwebhookTimeoutSeconds,
      useServerSideApply, huseServerSideApply, webhookConfiguration, hwebhookConfiguration,
      rfl⟩ := hbuild
    exact (Echoes.list Rule.codec_lawful hrules).map
      |>.seq (.plainOptional ApplyRules.codec_plain happlyRules)
      |>.seq (.plainOptional FailurePolicy.codec_plain hfailurePolicy)
      |>.seq (.plainOptional .flag hadmission)
      |>.seq (.plainOptional .flag hbackground)
      |>.seq (.plainOptional .int32 hwebhookTimeoutSeconds)
      |>.seq (.flag huseServerSideApply)
      |>.seq (.plainOptional WebhookConfiguration.codec_plain hwebhookConfiguration)
  · decide

end HubSpoke.Spoke
