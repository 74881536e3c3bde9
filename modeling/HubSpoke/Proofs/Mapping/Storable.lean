import HubSpoke.Proofs.Mapping.Readable

/-!
# What was mapped to the hub can be stashed

A stash is read back when it nests no deeper than documents may.  The hub of a spoke that was read
from a document is read from one with as many levels: its older spellings are unset, conditions are
rendered as objects that nest as deep as they were written, and all else was read for the spoke
itself.  Units restored from a stash were read from that.
-/

namespace HubSpoke

open Fields (builds_seq builds_map builds_spread readsIn_of_list readsIn_of_optional SpelledIn)

variable {numbers : Json.Numbers} {levels : Nat}

/-! ## Shared parts -/

theorem ResourceReference.spelledIn_fields (reference : ResourceReference) :
    SpelledIn fields numbers levels reference
      ["apiVersion", "kind", "namespace", "name", "uid"] :=
  (SpelledIn.text _).map
    |>.seq (.text _)
    |>.seq (.text _)
    |>.seq (.text _)
    |>.seq (.text _)

section Shared

variable {given : List (String × Json)} (hgiven : ∀ member ∈ given, member.2.fits numbers levels)
include hgiven

theorem UserInfo.spelledIn_fields {user : UserInfo} (h : fields.build given = .ok user) :
    SpelledIn fields numbers levels user ["roles", "clusterRoles", "subjects"] := by
  have hbuild : fields.Builds given (· = user) := ⟨user, h, rfl⟩
  simp only [fields, builds_seq, builds_map] at hbuild
  obtain ⟨roles, hroles, clusterRoles, hclusterRoles, subjects, hsubjects, rfl⟩ := hbuild
  exact (SpelledIn.of_build hgiven hroles).map
    |>.seq (.of_build hgiven hclusterRoles)
    |>.seq (.of_build hgiven hsubjects)

/-- Typed conditions are rendered as an object, which nests as deep as they were written once it may
nest as deep as the rendering of a condition does. -/
theorem ConditionBlock.spelledIn_raw {σ τ : Type} {name : String} {typed : Option ConditionBlock}
    {other : τ → Option ConditionBlock} {get : σ → Option Json} (hlevels : 3 ≤ levels)
    (h : (Fields.optional name codec other).build given = .ok typed) :
    SpelledIn (Fields.optional name .json get) numbers levels (typed.map toRaw) [name] := by
  cases typed with
  | none => exact .of_absent
  | some block =>
      obtain ⟨document, hfits, hdecode⟩ := readsIn_of_optional hgiven h rfl
      have hraw : block.toRaw.fits numbers levels := by
        have hrendered := codec_lawful.fits hfits hdecode
        rwa [Nat.max_eq_left hlevels] at hrendered
      exact .of_decode hraw rfl

end Shared

namespace Spoke

/-! ## Match blocks -/

theorem ResourceDescription.readsIn_toHub {d : ResourceDescription}
    (h : codec.ReadsIn numbers levels d) :
    Hub.ResourceDescription.codec.ReadsIn numbers levels d.toHub := by
  obtain ⟨below, given, rfl, hgiven, hbuild⟩ := h.builds
  simp only [builds_seq, builds_map] at hbuild
  obtain ⟨kinds, hkinds, names, hnames, namespaces, hnamespaces, annotations, hannotations,
    selector, hselector, namespaceSelector, hnamespaceSelector, operations, hoperations,
    rfl⟩ := hbuild
  apply SpelledIn.readsIn
  · exact (SpelledIn.of_build hgiven hkinds).map
      |>.seq .of_absent
      |>.seq (.of_build hgiven hnames)
      |>.seq (.of_build hgiven hnamespaces)
      |>.seq (.of_build hgiven hannotations)
      |>.seq (.of_build hgiven hselector)
      |>.seq (.of_build hgiven hnamespaceSelector)
      |>.seq (.of_build hgiven hoperations)
  · decide

theorem ResourceFilter.readsIn_toHub {f : ResourceFilter} (h : codec.ReadsIn numbers levels f) :
    Hub.ResourceFilter.codec.ReadsIn numbers levels f.toHub := by
  obtain ⟨below, given, rfl, hgiven, hbuild⟩ := h.builds
  simp only [builds_seq, builds_map, builds_spread] at hbuild
  obtain ⟨user, huser, resources, hresources, rfl⟩ := hbuild
  apply SpelledIn.readsIn
  · exact (SpelledIn.spread (UserInfo.spelledIn_fields hgiven huser)).map
      |>.seq (.default_map rfl hgiven hresources ResourceDescription.readsIn_toHub)
  · decide

theorem MatchBlock.readsIn_toHub {block : MatchBlock} (h : codec.ReadsIn numbers levels block) :
    Hub.MatchBlock.codec.ReadsIn numbers levels block.toHub := by
  obtain ⟨below, given, rfl, hgiven, hbuild⟩ := h.builds
  simp only [builds_seq, builds_map] at hbuild
  obtain ⟨any, hany, all, hall, rfl⟩ := hbuild
  -- the inline filter is left out
  have huser : SpelledIn UserInfo.fields numbers below {}
      ["roles", "clusterRoles", "subjects"] :=
    SpelledIn.of_absent.map |>.seq .of_absent |>.seq .of_absent
  apply SpelledIn.readsIn
  · exact (SpelledIn.list_map hgiven hany fun _ _ => ResourceFilter.readsIn_toHub).map
      |>.seq (.list_map hgiven hall fun _ _ => ResourceFilter.readsIn_toHub)
      |>.seq (.spread huser)
      |>.seq .of_absent
  · decide

/-! ## Rule blocks -/

theorem Deny.readsIn_toHub {d : Deny} (hlevels : 4 ≤ levels) (h : codec.ReadsIn numbers levels d) :
    Hub.Deny.codec.ReadsIn numbers levels d.toHub := by
  obtain ⟨below, given, rfl, hgiven, hbuild⟩ := h.builds
  simp only [builds_map] at hbuild
  obtain ⟨conditions, hconditions, rfl⟩ := hbuild
  apply SpelledIn.readsIn
  · exact (ConditionBlock.spelledIn_raw hgiven (by omega) hconditions).map
  · decide

theorem Validation.readsIn_toHub {v : Validation} (hlevels : 5 ≤ levels)
    (h : codec.ReadsIn numbers levels v) :
    Hub.Validation.codec.ReadsIn numbers levels v.toHub := by
  obtain ⟨below, given, rfl, hgiven, hbuild⟩ := h.builds
  simp only [builds_seq, builds_map] at hbuild
  obtain ⟨_, -, _, -, message, -, manifests, hmanifests, forEach, hforEach, pattern,
    hpattern, anyPattern, hanyPattern, deny, hdeny, podSecurity, hpodSecurity, cel, hcel,
    rfl⟩ := hbuild
  apply SpelledIn.readsIn
  · exact (SpelledIn.text _).map
      |>.seq (.of_build hgiven hmanifests)
      |>.seq (.of_build hgiven hforEach)
      |>.seq (.of_build hgiven hpattern)
      |>.seq (.of_build hgiven hanyPattern)
      |>.seq (.optional_map Codec.record_null_ne hgiven hdeny fun _ _ =>
        Deny.readsIn_toHub (by omega))
      |>.seq (.of_build hgiven hpodSecurity)
      |>.seq (.of_build hgiven hcel)
  · decide

theorem MutationTarget.readsIn_toHub {t : MutationTarget} (hlevels : 4 ≤ levels)
    (h : codec.ReadsIn numbers levels t) :
    Hub.MutationTarget.codec.ReadsIn numbers levels t.toHub := by
  obtain ⟨below, given, rfl, hgiven, hbuild⟩ := h.builds
  simp only [builds_seq, builds_map, builds_spread] at hbuild
  obtain ⟨resource, -, context, hcontext, preconditions, hpreconditions, rfl⟩ := hbuild
  apply SpelledIn.readsIn
  · exact (SpelledIn.spread (ResourceReference.spelledIn_fields resource)).map
      |>.seq (.of_build hgiven hcontext)
      |>.seq (ConditionBlock.spelledIn_raw hgiven (by omega) hpreconditions)
  · decide

theorem Mutation.readsIn_toHub {m : Mutation} (hlevels : 6 ≤ levels)
    (h : codec.ReadsIn numbers levels m) : Hub.Mutation.codec.ReadsIn numbers levels m.toHub := by
  obtain ⟨below, given, rfl, hgiven, hbuild⟩ := h.builds
  simp only [builds_seq, builds_map] at hbuild
  obtain ⟨_, -, targets, htargets, patchStrategicMerge, hpatchStrategicMerge, patchesJson6902,
    -, forEach, hforEach, rfl⟩ := hbuild
  apply SpelledIn.readsIn
  · exact (SpelledIn.list_map hgiven htargets fun _ _ =>
        MutationTarget.readsIn_toHub (by omega)).map
      |>.seq (.of_build hgiven hpatchStrategicMerge)
      |>.seq (.text _)
      |>.seq (.of_build hgiven hforEach)
  · decide

theorem Generation.readsIn_toHub {g : Generation} (h : codec.ReadsIn numbers levels g) :
    Hub.Generation.codec.ReadsIn numbers levels g.toHub := by
  obtain ⟨below, given, rfl, hgiven, hbuild⟩ := h.builds
  simp only [builds_seq, builds_map, builds_spread] at hbuild
  obtain ⟨_, -, resource, -, synchronize, -, orphan, -, data, hdata,
    clone, hclone, cloneList, hcloneList, rfl⟩ := hbuild
  apply SpelledIn.readsIn
  · exact (SpelledIn.spread (ResourceReference.spelledIn_fields resource)).map
      |>.seq (.flag _)
      |>.seq (.flag _)
      |>.seq (.of_build hgiven hdata)
      |>.seq (.of_build hgiven hclone)
      |>.seq (.of_build hgiven hcloneList)
  · decide

theorem Attestation.readsIn_toHub {a : Attestation} (h : codec.ReadsIn numbers levels a) :
    Hub.Attestation.codec.ReadsIn numbers levels a.toHub := by
  obtain ⟨below, given, rfl, hgiven, hbuild⟩ := h.builds
  simp only [builds_seq, builds_map] at hbuild
  obtain ⟨type, -, attestors, hattestors, conditions, hconditions, rfl⟩ := hbuild
  apply SpelledIn.readsIn
  · exact SpelledIn.of_absent.map
      |>.seq (.text _)
      |>.seq (.of_build hgiven hattestors)
      |>.seq (.of_build hgiven hconditions)
  · decide

theorem ImageVerification.readsIn_toHub {v : ImageVerification}
    (h : codec.ReadsIn numbers levels v) :
    Hub.ImageVerification.codec.ReadsIn numbers levels v.toHub := by
  obtain ⟨below, given, rfl, hgiven, hbuild⟩ := h.builds
  simp only [builds_seq, builds_map] at hbuild
  obtain ⟨type, htype, imageReferences, himageReferences, skipImageReferences,
    hskipImageReferences, attestors, hattestors, attestations, hattestations, repository,
    -, mutateDigest, hmutateDigest, verifyDigest, hverifyDigest, required, hrequired,
    imageRegistryCredentials, himageRegistryCredentials, useCache, huseCache, rfl⟩ := hbuild
  apply SpelledIn.readsIn
  · exact (SpelledIn.of_build hgiven htype).map
      |>.seq .of_absent
      |>.seq (.of_build hgiven himageReferences)
      |>.seq (.of_build hgiven hskipImageReferences)
      |>.seq .of_absent
      |>.seq .of_absent
      |>.seq .of_absent
      |>.seq .of_absent
      |>.seq .of_absent
      |>.seq (.of_build hgiven hattestors)
      |>.seq (.list_map hgiven hattestations fun _ _ => Attestation.readsIn_toHub)
      |>.seq .of_absent
      |>.seq (.text _)
      |>.seq (.of_build hgiven hmutateDigest)
      |>.seq (.of_build hgiven hverifyDigest)
      |>.seq (.of_build hgiven hrequired)
      |>.seq (.of_build hgiven himageRegistryCredentials)
      |>.seq (.of_build hgiven huseCache)
  · decide

/-! ## Rules and specs -/

theorem Rule.readsIn_toHub {rule : Rule} (hlevels : 7 ≤ levels)
    (h : codec.ReadsIn numbers levels rule) : Hub.Rule.codec.ReadsIn numbers levels rule.toHub := by
  obtain ⟨below, given, rfl, hgiven, hbuild⟩ := h.builds
  simp only [builds_seq, builds_map] at hbuild
  obtain ⟨name, hname, matchBlock, hmatchBlock, exclude, hexclude, context, hcontext,
    preconditions, hpreconditions, validation, hvalidation, mutation, hmutation, generation,
    hgeneration, verifyImages, hverifyImages, rfl⟩ := hbuild
  apply SpelledIn.readsIn
  · exact (SpelledIn.of_build hgiven hname).map
      |>.seq (.default_map rfl hgiven hmatchBlock MatchBlock.readsIn_toHub)
      |>.seq (.optional_map Codec.record_null_ne hgiven hexclude fun _ _ =>
        MatchBlock.readsIn_toHub)
      |>.seq (.of_build hgiven hcontext)
      |>.seq (ConditionBlock.spelledIn_raw hgiven (by omega) hpreconditions)
      |>.seq (.optional_map Codec.record_null_ne hgiven hvalidation fun _ _ =>
        Validation.readsIn_toHub (by omega))
      |>.seq (.optional_map Codec.record_null_ne hgiven hmutation fun _ _ =>
        Mutation.readsIn_toHub (by omega))
      |>.seq (.optional_map Codec.record_null_ne hgiven hgeneration fun _ _ =>
        Generation.readsIn_toHub)
      |>.seq (.list_map hgiven hverifyImages fun _ _ => ImageVerification.readsIn_toHub)
  · decide

/-- The rules of a spec stand two levels below it. -/
theorem Spec.readsIn_rule {spec : Spec} (h : codec.ReadsIn numbers levels spec) {rule : Rule}
    (hrule : rule ∈ spec.rules) : Rule.codec.ReadsIn numbers (levels - 2) rule := by
  obtain ⟨below, given, rfl, hgiven, hbuild⟩ := h.builds
  simp only [builds_seq, builds_map] at hbuild
  obtain ⟨rules, hrules, _, -, _, -, _, -, _, -, _, -, _, -, _, -, rfl⟩ := hbuild
  exact readsIn_of_list hgiven hrules hrule

end Spoke

namespace Hub

/-- Units of either rule make a rule that is read again. -/
theorem Rule.readsIn_restoreUnits {fresh saved : Rule} (hfresh : codec.ReadsIn numbers levels fresh)
    (hsaved : codec.ReadsIn numbers levels saved) (mapped current : Spoke.Rule) :
    codec.ReadsIn numbers levels (fresh.restoreUnits saved mapped current) := by
  obtain ⟨below, given, rfl, hgiven, hbuild⟩ := hfresh.builds
  obtain ⟨_, stash, heq, hstash, hrebuild⟩ := hsaved.builds
  obtain rfl := Nat.succ.inj heq
  simp only [builds_seq, builds_map] at hbuild hrebuild
  obtain ⟨name, hname, matchBlock, hmatchBlock, exclude, hexclude, context, hcontext,
    preconditions, hpreconditions, validation, hvalidation, mutation, hmutation, generation,
    hgeneration, verifyImages, hverifyImages, rfl⟩ := hbuild
  obtain ⟨_, -, _, hmatchBlock', _, hexclude', _, -, _, hpreconditions', _, hvalidation', _,
    hmutation', _, hgeneration', _, hverifyImages', rfl⟩ := hrebuild
  unfold restoreUnits
  apply SpelledIn.readsIn
  · exact (SpelledIn.of_build hgiven hname).map
      |>.seq (.ite (.of_build hstash hmatchBlock') (.of_build hgiven hmatchBlock))
      |>.seq (.ite (.of_build hstash hexclude') (.of_build hgiven hexclude))
      |>.seq (.of_build hgiven hcontext)
      |>.seq (.ite (.of_build hstash hpreconditions') (.of_build hgiven hpreconditions))
      |>.seq (.ite (.of_build hstash hvalidation') (.of_build hgiven hvalidation))
      |>.seq (.ite (.of_build hstash hmutation') (.of_build hgiven hmutation))
      |>.seq (.ite (.of_build hstash hgeneration') (.of_build hgiven hgeneration))
      |>.seq (.ite (.of_build hstash hverifyImages') (.of_build hgiven hverifyImages))
  · decide

namespace Spec

theorem readsIn_overlayRules {fresh : List Rule} {restored : List (Rule × Spoke.Rule)}
    {source : List Spoke.Rule} (hfresh : ∀ rule ∈ fresh, Rule.codec.ReadsIn numbers levels rule)
    (hrestored : ∀ pair ∈ restored, Rule.codec.ReadsIn numbers levels pair.1) :
    ∀ rule ∈ overlayRules fresh restored source, Rule.codec.ReadsIn numbers levels rule := by
  intro rule hrule
  unfold overlayRules at hrule
  obtain ⟨⟨mapped, position⟩, hitem, rfl⟩ := List.mem_map.mp hrule
  have hmapped := hfresh mapped (List.fst_mem_of_mem_zipIdx hitem)
  dsimp only
  split
  case h_1 current saved _ _ hsaved =>
    exact Rule.readsIn_restoreUnits hmapped (hrestored _ (mem_of_counterpart? hsaved)) _ _
  case h_2 => exact hmapped

/-- A hub spec is read when its rules and its overrides are, and what it shares with a spoke spec is
that of one that is read. -/
theorem readsIn_of_shared {stored : Spec} {spec : Spoke.Spec} (hlevels : 1 < levels)
    (hspec : Spoke.Spec.codec.ReadsIn numbers levels spec)
    (hrules : ∀ rule ∈ stored.rules, Rule.codec.ReadsIn numbers (levels - 2) rule)
    (hoverrides : ∀ o ∈ stored.validationFailureActionOverrides,
      ActionOverride.codec.ReadsIn numbers (levels - 2) o)
    (hshared : stored = { stored with
      applyRules := spec.applyRules
      failurePolicy := spec.failurePolicy
      admission := spec.admission
      background := spec.background
      webhookTimeoutSeconds := spec.webhookTimeoutSeconds
      useServerSideApply := spec.useServerSideApply
      webhookConfiguration := spec.webhookConfiguration }) :
    codec.ReadsIn numbers levels stored := by
  obtain ⟨below, given, rfl, hgiven, hbuild⟩ := hspec.builds
  simp only [builds_seq, builds_map] at hbuild
  obtain ⟨rules, -, applyRules, happlyRules, failurePolicy, hfailurePolicy, admission, hadmission,
    background, hbackground, webhookTimeoutSeconds, hwebhookTimeoutSeconds, useServerSideApply, -,
    webhookConfiguration, hwebhookConfiguration, rfl⟩ := hbuild
  have haction (action : FailureAction) : FailureAction.codec.ReadsIn numbers below action :=
    ⟨FailureAction.codec.encode action, rfl, by cases action <;> rfl⟩
  have hflag (value : Bool) : Codec.flag.ReadsIn numbers below value := ⟨.bool value, rfl, rfl⟩
  have hnull {value : Bool} : Codec.flag.decode .null ≠ .ok value := nofun
  have hbelow : 0 < below := by omega
  rw [hshared]
  apply SpelledIn.readsIn
  · exact (SpelledIn.list hbelow hrules).map
      |>.seq (.optional FailureAction.null_ne fun action _ => haction action)
      |>.seq (.list hbelow hoverrides)
      |>.seq (.of_build hgiven happlyRules)
      |>.seq (.of_build hgiven hfailurePolicy)
      |>.seq (.of_build hgiven hadmission)
      |>.seq (.of_build hgiven hbackground)
      |>.seq (.optional hnull fun value _ => hflag value)
      |>.seq (.of_build hgiven hwebhookTimeoutSeconds)
      |>.seq (.flag _)
      |>.seq (.flag _)
      |>.seq (.optional hnull fun value _ => hflag value)
      |>.seq (.flag _)
      |>.seq (.of_build hgiven hwebhookConfiguration)
  · decide

/-- The rules of a spec stand two levels below it, and so do its overrides. -/
theorem readsIn_parts {s : Spec} (h : codec.ReadsIn numbers levels s) :
    (∀ rule ∈ s.rules, Rule.codec.ReadsIn numbers (levels - 2) rule) ∧
      ∀ o ∈ s.validationFailureActionOverrides,
        ActionOverride.codec.ReadsIn numbers (levels - 2) o := by
  obtain ⟨below, given, rfl, hgiven, hbuild⟩ := h.builds
  simp only [builds_seq, builds_map] at hbuild
  obtain ⟨rules, hrules, _, -, overrides, hoverrides, _, -, _, -, _, -, _, -, _, -, _, -, _, -, _,
    -, _, -, _, -, _, -, rfl⟩ := hbuild
  exact ⟨fun _ => readsIn_of_list hgiven hrules, fun _ => readsIn_of_list hgiven hoverrides⟩

end Spec

end Hub

/-- A spec read from a document maps to one that is read from a document with as many levels. -/
theorem Spoke.Spec.readsIn_toHub {spec : Spec} (hlevels : 9 ≤ levels)
    (h : codec.ReadsIn numbers levels spec) : Hub.Spec.codec.ReadsIn numbers levels spec.toHub := by
  refine Hub.Spec.readsIn_of_shared (by omega) h ?_ nofun rfl
  intro mapped hmapped
  obtain ⟨rule, hrule, rfl⟩ := List.mem_map.mp hmapped
  exact Rule.readsIn_toHub (by omega) (readsIn_rule h hrule)

/-- So is one that a stashed spec was laid over, if that was read itself. -/
theorem Hub.Spec.readsIn_overlay {source : Spoke.Spec} {restored spec : Spec} (hlevels : 9 ≤ levels)
    (hsource : Spoke.Spec.codec.ReadsIn numbers levels source)
    (hrestored : codec.ReadsIn numbers levels restored)
    (h : source.toHub.overlay restored source = .ok spec) : codec.ReadsIn numbers levels spec := by
  obtain ⟨hrules, -⟩ := readsIn_parts (Spoke.Spec.readsIn_toHub hlevels hsource)
  obtain ⟨hsaved, hoverrides⟩ := readsIn_parts hrestored
  obtain ⟨remapped, -, heq⟩ := Except.bind_eq_ok_iff.mp h
  obtain rfl := Except.ok.inj heq
  refine readsIn_of_shared (by omega) hsource ?_ ?_ ?_
  · exact readsIn_overlayRules hrules fun pair hpair => hsaved _ (List.of_mem_zip hpair).1
  · intro o ho
    refine hoverrides o ?_
    by_cases hempty : restored.validationFailureActionOverrides.isEmpty <;>
      by_cases hrouted : remapped.rules.map Routed.ofRule = source.rules.map Routed.ofRule <;>
        simp_all [Routed.writeTo, Spoke.Spec.toHub]
  · by_cases hrouted : remapped.rules.map Routed.ofRule = source.rules.map Routed.ofRule
    · simp only [if_pos hrouted]
      rfl
    · simp only [if_neg hrouted]
      rfl

end HubSpoke
