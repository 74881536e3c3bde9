import HubSpoke.Proofs.Hub.Codecs
import HubSpoke.Proofs.Record.Spelled
import HubSpoke.Proofs.Stash.Overlay

/-!
# What was mapped can be read

Some values that can be built are read from no document, so that a policy a conversion made need not
be readable.  The spoke of a hub that was read from a document is: each of its fields was read from
the hub's document, or is put together from what was.
-/

namespace HubSpoke

open Codec.Lawful (builds_of_record)
open Fields (builds_seq builds_map builds_spread decoded_of_optional decoded_of_list
  decoded_of_default Spelled)

/-! ## Shared records -/

theorem LabelRequirement.reads (r : LabelRequirement) : codec.Reads r := by
  apply Spelled.reads
  · exact (Spelled.of_reads ⟨.str r.key, rfl⟩).map
      |>.seq (.of_reads ⟨.str r.operator, rfl⟩)
      |>.seq (.textList r.values)
  · decide

theorem LabelSelector.reads (s : LabelSelector) : codec.Reads s := by
  apply Spelled.reads
  · exact (Spelled.textMap s.matchLabels).map
      |>.seq (.list fun r _ => r.reads)
  · decide

theorem FailureAction.reads (action : FailureAction) : codec.Reads action :=
  ⟨codec.encode action, by cases action <;> rfl⟩

theorem FailureAction.null_ne {action : FailureAction} : codec.decode .null ≠ .ok action := nofun

theorem ActionOverride.reads (o : ActionOverride) : codec.Reads o := by
  apply Spelled.reads
  · exact (Spelled.of_reads o.action.reads).map
      |>.seq (.textList o.namespaces)
      |>.seq (.optional Codec.record_null_ne fun s _ => s.reads)
  · decide

/-- A raw value that types spells a block that can be read, be it null, a list or an object. -/
theorem ConditionBlock.SpelledBy.reads {raw : Json} {block : ConditionBlock}
    (h : SpelledBy raw block) : codec.Reads block := by
  cases raw with
  | null =>
      obtain rfl := Except.ok.inj h
      exact ⟨.obj [], rfl⟩
  | arr items =>
      obtain ⟨any, hany, rfl⟩ := Except.map_eq_ok_iff.mp h
      have hdecode : (Codec.list Condition.codec).decode (.arr items) = .ok any :=
        Except.mapError_eq_ok_iff.mp hany
      apply Spelled.reads
      · exact (Spelled.of_decode hdecode).map
          |>.seq .of_absent
      · decide
  | obj members => exact ⟨.obj members, Except.mapError_eq_ok_iff.mp h⟩
  | _ => cases h

namespace Hub

/-! ## Match blocks -/

theorem ResourceDescription.reads_toSpoke {d : ResourceDescription} (h : codec.Reads d) :
    Spoke.ResourceDescription.codec.Reads d.toSpoke := by
  obtain ⟨_, hdecode⟩ := h
  obtain ⟨given, hbuild, -⟩ := builds_of_record hdecode
  simp only [builds_seq, builds_map] at hbuild
  obtain ⟨kinds, hkinds, name, -, names, -, namespaces, hnamespaces, annotations, hannotations,
    selector, hselector, namespaceSelector, hnamespaceSelector, operations, hoperations,
    rfl⟩ := hbuild
  apply Spelled.reads
  · exact (Spelled.of_build hkinds).map
      |>.seq (.textList _)
      |>.seq (.of_build hnamespaces)
      |>.seq (.of_build hannotations)
      |>.seq (.of_build hselector)
      |>.seq (.of_build hnamespaceSelector)
      |>.seq (.of_build hoperations)
  · decide

theorem ResourceFilter.reads_toSpoke {f : ResourceFilter} (h : codec.Reads f) :
    Spoke.ResourceFilter.codec.Reads f.toSpoke := by
  obtain ⟨_, hdecode⟩ := h
  obtain ⟨given, hbuild, -⟩ := builds_of_record hdecode
  simp only [builds_seq, builds_map, builds_spread] at hbuild
  obtain ⟨user, huser, resources, hresources, rfl⟩ := hbuild
  have hblank : ResourceDescription.codec.decode (.obj []) = .ok {} := rfl
  obtain ⟨_, hdecode, -⟩ := decoded_of_default hblank hresources
  apply Spelled.reads
  · exact (Spelled.spread (.of_echoes (UserInfo.fields_echo huser))).map
      |>.seq (.of_reads (ResourceDescription.reads_toSpoke ⟨_, hdecode⟩))
  · decide

theorem MatchBlock.reads_toSpoke {block : MatchBlock} (h : codec.Reads block) :
    Spoke.MatchBlock.codec.Reads block.toSpoke := by
  obtain ⟨_, hdecode⟩ := h
  obtain ⟨given, hbuild, -⟩ := builds_of_record hdecode
  simp only [builds_seq, builds_map, builds_spread] at hbuild
  obtain ⟨any, hany, all, hall, user, huser, resources, hresources, rfl⟩ := hbuild
  have hinline : ResourceFilter.codec.Reads { user, resources } := by
    apply Spelled.reads
    · exact (Spelled.spread (.of_echoes (UserInfo.fields_echo huser))).map
        |>.seq (.of_build hresources)
    · decide
  -- a filter of either list comes from one of the document, or is the inline one
  have horigin (x : Spoke.ResourceFilter)
      (hx : x ∈ (MatchBlock.mk any all user resources).toSpoke.any ∨
        x ∈ (MatchBlock.mk any all user resources).toSpoke.all) :
      ∃ f, ResourceFilter.codec.Reads f ∧ f.toSpoke = x := by
    have hlists : (∃ f ∈ any, f.toSpoke = x) ∨ (∃ f ∈ all, f.toSpoke = x) ∨
        ResourceFilter.toSpoke { user, resources } = x := by
      grind [MatchBlock.toSpoke, MatchBlock.inline]
    rcases hlists with ⟨f, hf, heq⟩ | ⟨f, hf, heq⟩ | heq
    · exact ⟨f, decoded_of_list hany hf, heq⟩
    · exact ⟨f, decoded_of_list hall hf, heq⟩
    · exact ⟨_, hinline, heq⟩
  have hreads (x : Spoke.ResourceFilter)
      (hx : x ∈ (MatchBlock.mk any all user resources).toSpoke.any ∨
        x ∈ (MatchBlock.mk any all user resources).toSpoke.all) :
      Spoke.ResourceFilter.codec.Reads x := by
    obtain ⟨f, hf, rfl⟩ := horigin x hx
    exact ResourceFilter.reads_toSpoke hf
  apply Spelled.reads
  · exact (Spelled.list fun x hx => hreads x (.inl hx)).map
      |>.seq (.list fun x hx => hreads x (.inr hx))
  · decide

/-! ## Blocks with conditions -/

theorem Deny.MapsTo.reads {d : Deny} {x : Spoke.Deny} (h : d.MapsTo x) :
    Spoke.Deny.codec.Reads x := by
  apply Spelled.reads
  · refine (Spelled.optional Codec.record_null_ne fun block hblock => ?_).map
    obtain ⟨raw, -, hraw⟩ := Option.exists_of_rel h hblock
    exact hraw.reads
  · decide

/-- A validation block with any action and overrides. -/
theorem Validation.MapsTo.reads {v : Validation} {x : Spoke.Validation} (hv : codec.Reads v)
    (h : v.MapsTo { x with action := none, overrides := [] }) :
    Spoke.Validation.codec.Reads x := by
  obtain ⟨_, hdecode⟩ := hv
  obtain ⟨given, hbuild, -⟩ := builds_of_record hdecode
  simp only [builds_seq, builds_map] at hbuild
  obtain ⟨message, -, manifests, hmanifests, forEach, hforEach, pattern, hpattern, anyPattern,
    hanyPattern, deny, -, podSecurity, hpodSecurity, cel, hcel, rfl⟩ := hbuild
  obtain ⟨hdeny, hrest⟩ := h
  obtain ⟨action, overrides⟩ := x
  simp only [Spoke.Validation.mk.injEq] at hrest
  obtain ⟨-, -, rfl, rfl, rfl, rfl, rfl, -, rfl, rfl⟩ := hrest
  apply Spelled.reads
  · exact (Spelled.optional FailureAction.null_ne fun a _ => a.reads).map
      |>.seq (.list fun o _ => o.reads)
      |>.seq (.text _)
      |>.seq (.of_build hmanifests)
      |>.seq (.of_build hforEach)
      |>.seq (.of_build hpattern)
      |>.seq (.of_build hanyPattern)
      |>.seq (.optional Codec.record_null_ne fun block hblock =>
        let ⟨_, _, hmaps⟩ := Option.exists_of_rel hdeny hblock
        hmaps.reads)
      |>.seq (.of_build hpodSecurity)
      |>.seq (.of_build hcel)
  · decide

theorem MutationTarget.MapsTo.reads {t : MutationTarget} {x : Spoke.MutationTarget}
    (ht : codec.Reads t) (h : t.MapsTo x) : Spoke.MutationTarget.codec.Reads x := by
  obtain ⟨_, hdecode⟩ := ht
  obtain ⟨given, hbuild, -⟩ := builds_of_record hdecode
  simp only [builds_seq, builds_map, builds_spread] at hbuild
  obtain ⟨resource, hresource, context, hcontext, preconditions, -, rfl⟩ := hbuild
  obtain ⟨hpreconditions, hrest⟩ := h
  rw [hrest]
  apply Spelled.reads
  · exact (Spelled.spread (.of_echoes (ResourceReference.fields_echo hresource))).map
      |>.seq (.of_build hcontext)
      |>.seq (.optional Codec.record_null_ne fun block hblock =>
        let ⟨_, _, hraw⟩ := Option.exists_of_rel hpreconditions hblock
        hraw.reads)
  · decide

/-- A mutation block with any trigger. -/
theorem Mutation.MapsTo.reads {m : Mutation} {x : Spoke.Mutation} (hm : codec.Reads m)
    (h : m.MapsTo { x with mutateExisting := false }) : Spoke.Mutation.codec.Reads x := by
  obtain ⟨_, hdecode⟩ := hm
  obtain ⟨given, hbuild, -⟩ := builds_of_record hdecode
  simp only [builds_seq, builds_map] at hbuild
  obtain ⟨targets, htargets, patchStrategicMerge, hpatchStrategicMerge, patchesJson6902, -,
    forEach, hforEach, rfl⟩ := hbuild
  obtain ⟨hmaps, hrest⟩ := h
  obtain ⟨mutateExisting, mapped⟩ := x
  simp only [Spoke.Mutation.mk.injEq] at hrest
  obtain ⟨-, -, rfl, rfl, rfl⟩ := hrest
  apply Spelled.reads
  · exact (Spelled.flag mutateExisting).map
      |>.seq (.list fun target htarget =>
        let ⟨_, horigin, hmaps⟩ := List.exists_of_forall₂_right hmaps htarget
        hmaps.reads (decoded_of_list htargets horigin))
      |>.seq (.of_build hpatchStrategicMerge)
      |>.seq (.text _)
      |>.seq (.of_build hforEach)
  · decide

/-! ## Generation -/

/-- A generation block with any trigger. -/
theorem Generation.reads_of_toSpoke {g : Generation} {x : Spoke.Generation} (hg : codec.Reads g)
    (h : g.toSpoke = { x with generateExisting := false }) : Spoke.Generation.codec.Reads x := by
  obtain ⟨_, hdecode⟩ := hg
  obtain ⟨given, hbuild, -⟩ := builds_of_record hdecode
  simp only [builds_seq, builds_map, builds_spread] at hbuild
  obtain ⟨resource, hresource, synchronize, -, orphan, -, data, hdata, clone, hclone, cloneList,
    hcloneList, rfl⟩ := hbuild
  obtain ⟨generateExisting⟩ := x
  simp only [toSpoke, Spoke.Generation.mk.injEq] at h
  obtain ⟨-, rfl, rfl, rfl, rfl, rfl, rfl⟩ := h
  apply Spelled.reads
  · exact (Spelled.flag generateExisting).map
      |>.seq (.spread (.of_echoes (ResourceReference.fields_echo hresource)))
      |>.seq (.flag _)
      |>.seq (.flag _)
      |>.seq (.of_build hdata)
      |>.seq (.of_build hclone)
      |>.seq (.of_build hcloneList)
  · decide

/-! ## Image verification -/

theorem Attestation.reads_toSpoke {a : Attestation} (h : codec.Reads a) :
    Spoke.Attestation.codec.Reads a.toSpoke := by
  obtain ⟨_, hdecode⟩ := h
  obtain ⟨given, hbuild, -⟩ := builds_of_record hdecode
  simp only [builds_seq, builds_map] at hbuild
  obtain ⟨predicateType, -, type, -, attestors, hattestors, conditions, hconditions, rfl⟩ := hbuild
  apply Spelled.reads
  · exact (Spelled.text _).map
      |>.seq (.of_build hattestors)
      |>.seq (.of_build hconditions)
  · decide

/-- A public key given on its own. -/
theorem reads_publicKeys (publicKeys : String) : KeyAttestor.codec.Reads { publicKeys } := by
  apply Spelled.reads
  · exact (Spelled.text publicKeys).map
      |>.seq (.text _)
      |>.seq (.text _)
      |>.seq .of_absent
      |>.seq .of_absent
  · decide

/-- An identity given on its own. -/
theorem reads_identity (issuer subject roots : String) (additionalExtensions : KeyMap String) :
    KeylessAttestor.codec.Reads { issuer, subject, roots, additionalExtensions } := by
  apply Spelled.reads
  · exact (Spelled.text issuer).map
      |>.seq (.text subject)
      |>.seq (.text roots)
      |>.seq (.textMap additionalExtensions)
      |>.seq .of_absent
  · decide

theorem reads_signer {keys : Option KeyAttestor} {keyless : Option KeylessAttestor}
    (hkeys : ∀ value, keys = some value → KeyAttestor.codec.Reads value)
    (hkeyless : ∀ value, keyless = some value → KeylessAttestor.codec.Reads value)
    (annotations : KeyMap String) :
    AttestorSet.codec.Reads { entries := [{ keys, keyless, annotations }] } := by
  have hentry : Attestor.codec.Reads { keys, keyless, annotations } := by
    apply Spelled.reads
    · exact (Spelled.optional Codec.record_null_ne hkeys).map
        |>.seq .of_absent
        |>.seq (.optional Codec.record_null_ne hkeyless)
        |>.seq .of_absent
        |>.seq (.textMap annotations)
        |>.seq (.text _)
    · decide
  apply Spelled.reads
  · exact Spelled.of_absent.map
      |>.seq (.list (List.forall_mem_singleton.mpr hentry))
  · decide

theorem ImageVerification.reads_legacyAttestorSet {v : ImageVerification} {set : AttestorSet}
    (h : v.legacyAttestorSet = some set) : AttestorSet.codec.Reads set := by
  have hsigner {keys : Option KeyAttestor} {keyless : Option KeylessAttestor}
      (hkeys : ∀ value, keys = some value → KeyAttestor.codec.Reads value)
      (hkeyless : ∀ value, keyless = some value → KeylessAttestor.codec.Reads value)
      (h : (if keys.isNone && keyless.isNone then none
        else some { entries := [{ keys, keyless, annotations := v.annotations }] }) = some set) :
      AttestorSet.codec.Reads set := by
    split at h
    · cases h
    · obtain rfl := Option.some.inj h
      exact reads_signer hkeys hkeyless _
  refine hsigner (fun value hvalue => ?_) (fun value hvalue => ?_) h
  · split at hvalue
    · cases hvalue
    · obtain rfl := Option.some.inj hvalue
      exact reads_publicKeys _
  · split at hvalue
    · cases hvalue
    · obtain rfl := Option.some.inj hvalue
      exact reads_identity ..

theorem ImageVerification.reads_toSpoke {v : ImageVerification} (h : codec.Reads v) :
    Spoke.ImageVerification.codec.Reads v.toSpoke := by
  obtain ⟨_, hdecode⟩ := h
  obtain ⟨given, hbuild, -⟩ := builds_of_record hdecode
  simp only [builds_seq, builds_map] at hbuild
  obtain ⟨type, htype, _, -, _, -, skipImageReferences, hskipImageReferences, _, -, _, -, _, -,
    _, -, _, -, attestors, hattestors, attestations, hattestations, _, -, repository, -,
    mutateDigest, hmutateDigest, verifyDigest, hverifyDigest, required, hrequired,
    imageRegistryCredentials, himageRegistryCredentials, useCache, huseCache, rfl⟩ := hbuild
  apply Spelled.reads
  · exact (Spelled.of_build htype).map
      |>.seq (.textList _)
      |>.seq (.of_build hskipImageReferences)
      |>.seq (.list fun set hset => (List.mem_append.mp hset).elim (decoded_of_list hattestors)
        fun hlegacy => reads_legacyAttestorSet (Option.mem_toList.mp hlegacy))
      |>.seq (.list (List.forall_mem_map.mpr fun a ha =>
        Attestation.reads_toSpoke (decoded_of_list hattestations ha)))
      |>.seq (.text _)
      |>.seq (.of_build hmutateDigest)
      |>.seq (.of_build hverifyDigest)
      |>.seq (.of_build hrequired)
      |>.seq (.of_build himageRegistryCredentials)
      |>.seq (.of_build huseCache)
  · decide

/-! ## Rules and specs -/

/-- A rule with any routed values and overrides. -/
theorem Rule.MapsTo.reads {r : Rule} {x : Spoke.Rule} (hr : codec.Reads r)
    (h : r.MapsTo x.stripped) : Spoke.Rule.codec.Reads x := by
  obtain ⟨_, hdecode⟩ := hr
  obtain ⟨given, hbuild, -⟩ := builds_of_record hdecode
  simp only [builds_seq, builds_map] at hbuild
  obtain ⟨name, -, matchBlock, hmatchBlock, exclude, hexclude, context, hcontext, preconditions, -,
    validation, hvalidation, mutation, hmutation, generation, hgeneration, verifyImages,
    hverifyImages, rfl⟩ := hbuild
  obtain ⟨hpreconditions, hvalidations, hmutations, hrest⟩ := h
  obtain ⟨_, _, _, _, typed, checked, mutated, generated, _⟩ := x
  simp only [Spoke.Rule.stripped, Spoke.Rule.mk.injEq] at hvalidations hmutations hrest
  obtain ⟨rfl, rfl, rfl, rfl, -, -, -, hgenerated, rfl⟩ := hrest
  have hblank : MatchBlock.codec.decode (.obj []) = .ok {} := rfl
  obtain ⟨_, hmatch, -⟩ := decoded_of_default hblank hmatchBlock
  have hexcludes (block : Spoke.MatchBlock) (hblock : exclude.map MatchBlock.toSpoke = some block) :
      Spoke.MatchBlock.codec.Reads block := by
    obtain ⟨original, horiginal, rfl⟩ := Option.map_eq_some_iff.mp hblock
    exact MatchBlock.reads_toSpoke (decoded_of_optional hexclude horiginal)
  have htyped (block : ConditionBlock) (hblock : typed = some block) :
      ConditionBlock.codec.Reads block := by
    obtain ⟨raw, -, hraw⟩ := Option.exists_of_rel hpreconditions hblock
    exact hraw.reads
  have hchecked (block : Spoke.Validation) (hblock : checked = some block) :
      Spoke.Validation.codec.Reads block := by
    subst hblock
    obtain ⟨v, hv, hmaps⟩ := Option.exists_of_rel hvalidations rfl
    exact hmaps.reads (decoded_of_optional hvalidation hv)
  have hmutated (block : Spoke.Mutation) (hblock : mutated = some block) :
      Spoke.Mutation.codec.Reads block := by
    subst hblock
    obtain ⟨m, hm, hmaps⟩ := Option.exists_of_rel hmutations rfl
    exact hmaps.reads (decoded_of_optional hmutation hm)
  have hgenerates (block : Spoke.Generation) (hblock : generated = some block) :
      Spoke.Generation.codec.Reads block := by
    subst hblock
    obtain ⟨g, hg, hmaps⟩ := Option.map_eq_some_iff.mp hgenerated.symm
    exact Generation.reads_of_toSpoke (decoded_of_optional hgeneration hg) hmaps
  apply Spelled.reads
  · exact (Spelled.of_reads ⟨.str _, rfl⟩).map
      |>.seq (.of_reads (MatchBlock.reads_toSpoke ⟨_, hmatch⟩))
      |>.seq (.optional Codec.record_null_ne hexcludes)
      |>.seq (.of_build hcontext)
      |>.seq (.optional Codec.record_null_ne htyped)
      |>.seq (.optional Codec.record_null_ne hchecked)
      |>.seq (.optional Codec.record_null_ne hmutated)
      |>.seq (.optional Codec.record_null_ne hgenerates)
      |>.seq (.list (List.forall_mem_map.mpr fun v hv =>
        ImageVerification.reads_toSpoke (decoded_of_list hverifyImages hv)))
  · decide

/-- A spec is read whatever routed values and overrides were laid over it. -/
theorem Spec.reads_of_stripped {s : Spec} {fresh spec : Spoke.Spec} (hs : codec.Reads s)
    (hfresh : s.toSpoke = .ok fresh) (hspec : spec.stripped = fresh.stripped) :
    Spoke.Spec.codec.Reads spec := by
  obtain ⟨_, hdecode⟩ := hs
  obtain ⟨given, hbuild, -⟩ := builds_of_record hdecode
  simp only [builds_seq, builds_map] at hbuild
  obtain ⟨rules, hrules, _, -, _, -, applyRules, happlyRules, failurePolicy, hfailurePolicy,
    admission, hadmission, background, hbackground, _, -, webhookTimeoutSeconds,
    hwebhookTimeoutSeconds, _, -, _, -, _, -, useServerSideApply, -, webhookConfiguration,
    hwebhookConfiguration, rfl⟩ := hbuild
  have hreads (x : Spoke.Rule) (hx : x ∈ spec.rules) : Spoke.Rule.codec.Reads x := by
    -- up to routed values and overrides it is what a rule of the hub maps to
    have hmem : x.stripped ∈ fresh.stripped.rules := hspec ▸ List.mem_map_of_mem hx
    obtain ⟨twin, htwin, hshared⟩ := List.mem_map.mp hmem
    obtain ⟨r, hr, hmaps⟩ := List.exists_of_forall₂_right (toSpoke_stripped hfresh) htwin
    exact (hshared ▸ hmaps).reads (decoded_of_list hrules hr)
  obtain ⟨typed, -, rfl⟩ := toSpoke_eq_ok_iff.mp hfresh
  obtain ⟨mapped⟩ := spec
  simp only [Spoke.Spec.stripped, spokeOf, Spoke.Spec.mk.injEq] at hspec
  obtain ⟨-, rfl, rfl, rfl, rfl, rfl, rfl, rfl⟩ := hspec
  apply Spelled.reads
  · exact (Spelled.list hreads).map
      |>.seq (.of_build happlyRules)
      |>.seq (.of_build hfailurePolicy)
      |>.seq (.of_build hadmission)
      |>.seq (.of_build hbackground)
      |>.seq (.of_build hwebhookTimeoutSeconds)
      |>.seq (.flag _)
      |>.seq (.of_build hwebhookConfiguration)
  · decide

end Hub

end HubSpoke
