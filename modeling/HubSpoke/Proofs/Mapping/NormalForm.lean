import HubSpoke.Proofs.Mapping.RoundTrip
import HubSpoke.Proofs.Stash.Restore

/-!
# Hub specs in normal form

Going to the spoke folds older spellings, types conditions and leaves out what the spoke has no
place for; going back renders the conditions and folds nothing out again.  So a hub spec that maps
comes back as the data it was exactly when it is in normal form: no older spelling is used, every
raw condition block is as it would be rendered, nothing without a peer is set, and no routed value
is set that no rule carries.

`IsNormal` says this of each unit without mentioning a mapping, and `unsigned_toHub_iff` that it is
what mapping there and back leaves alone, from the blocks up to the spec.
-/

namespace HubSpoke

/-! ## Normal forms -/

/-- The raw value is what the block it spells is rendered as. -/
def ConditionBlock.IsRendered (raw : Json) : Prop :=
  ∃ block, SpelledBy raw block ∧ sameData block.toRaw raw

namespace Hub

/-- The block has no inline filter, and none of its filters a single name. -/
def MatchBlock.IsNormal (block : MatchBlock) : Prop :=
  block.hasInline = false ∧
    ∀ filter ∈ block.any ++ block.all, filter.resources.name = ""

/-- The image verification gives neither a single image nor a single signer, and its attestations
give no predicate type. -/
structure ImageVerification.IsNormal (v : ImageVerification) : Prop where
  image : v.image = ""
  key : v.key = ""
  roots : v.roots = ""
  subject : v.subject = ""
  issuer : v.issuer = ""
  additionalExtensions : v.additionalExtensions = .empty
  annotations : v.annotations = .empty
  predicateTypes : ∀ attestation ∈ v.attestations, attestation.predicateType = ""

/-- The rule uses no older spelling, and its raw conditions are as they would be rendered. -/
structure Rule.IsNormal (r : Rule) : Prop where
  matchBlock : r.matchBlock.IsNormal
  exclude : ∀ block ∈ r.exclude, block.IsNormal
  preconditions : ∀ raw ∈ r.preconditions, ConditionBlock.IsRendered raw
  denyConditions : ∀ v ∈ r.validation, ∀ deny ∈ v.deny, ∀ raw ∈ deny.conditions,
    ConditionBlock.IsRendered raw
  targetPreconditions : ∀ m ∈ r.mutation, ∀ target ∈ m.targets, ∀ raw ∈ target.preconditions,
    ConditionBlock.IsRendered raw
  images : ∀ image ∈ r.verifyImages, image.IsNormal

/-- The spec holds nothing that the spoke has no place for or spells in another way. -/
structure Spec.IsNormal (s : Spec) : Prop where
  overrides : s.validationFailureActionOverrides = []
  existingOnUpdate : s.generateExistingOnPolicyUpdate = none
  schemaValidation : s.schemaValidation = none
  rules : ∀ rule ∈ s.rules, rule.IsNormal
  action : s.validationFailureAction = none ∨ ∃ rule ∈ s.rules, rule.kind = .validate
  mutateExisting : s.mutateExistingOnPolicyUpdate = false ∨ ∃ rule ∈ s.rules, rule.kind = .mutate
  generateExisting : s.generateExisting = false ∨ ∃ rule ∈ s.rules, rule.kind = .generate

end Hub

/-! ## The same data, item by item -/

section Items

variable {α β : Type} [Unsigned α] {R : α → β → Prop} {f : β → α} {P : α → Prop}

theorem unsigned_map_option_iff {item : Option α} {result : Option β} (h : Option.Rel R item result)
    (hpair : ∀ a b, R a b → (unsigned (f b) = unsigned a ↔ P a)) :
    unsigned (result.map f) = unsigned item ↔ ∀ a ∈ item, P a := by
  cases h with
  | none => simp
  | @some a b hrel =>
      calc unsigned (some (f b)) = unsigned (some a) ↔ unsigned (f b) = unsigned a :=
            (Option.some.injEq ..).to_iff
        _ ↔ ∀ item ∈ some a, P item := by simp [hpair a b hrel]

theorem unsigned_map_list_iff {items : List α} {results : List β} (h : List.Forall₂ R items results)
    (hpair : ∀ a b, R a b → (unsigned (f b) = unsigned a ↔ P a)) :
    unsigned (results.map f) = unsigned items ↔ ∀ a ∈ items, P a := by
  induction h with
  | nil => simp
  | @cons a b rest more hhead _ ih =>
      calc unsigned ((b :: more).map f) = unsigned (a :: rest) ↔
            unsigned (f b) = unsigned a ∧ unsigned (more.map f) = unsigned rest :=
            (List.cons.injEq ..).to_iff
        _ ↔ ∀ item ∈ a :: rest, P item := by
            rw [hpair a b hhead, ih, List.forall_mem_cons]

/-- A list whose items are mapped there and back one by one. -/
theorem unsigned_map_map_iff {g : α → β} (items : List α)
    (hitem : ∀ a, unsigned (f (g a)) = unsigned a ↔ P a) :
    unsigned ((items.map g).map f) = unsigned items ↔ ∀ a ∈ items, P a := by
  have hmapped : List.Forall₂ (fun a b => g a = b) items (items.map g) :=
    List.forall₂_map_right_iff.mpr (List.forall₂_same.mpr fun _ _ => rfl)
  refine unsigned_map_list_iff hmapped fun a b hb => ?_
  rw [← hb]
  exact hitem a

end Items

/-! ## Conditions -/

namespace ConditionBlock

variable {raw : Json} {block : ConditionBlock}

/-- A block that was typed from a raw value is typed again from its own rendering. -/
theorem SpelledBy.toRaw (h : SpelledBy raw block) : SpelledBy block.toRaw block := by
  suffices hdecoded : ∃ document, codec.decode document = .ok block by
    obtain ⟨document, hdecode⟩ := hdecoded
    exact spelledBy_toRaw hdecode
  rw [SpelledBy, ofRaw.eq_def] at h
  split at h
  case h_1 =>
    obtain rfl := Except.ok.inj h
    exact ⟨.obj [], rfl⟩
  case h_2 members => exact ⟨_, Except.mapError_eq_ok_iff.mp h⟩
  case h_3 items =>
    obtain ⟨any, hany, rfl⟩ := Except.map_eq_ok_iff.mp h
    refine ⟨.obj [("any", .arr items)], ?_⟩
    have hitems := Except.mapError_eq_ok_iff.mp hany
    simp [codec, Codec.record, Codec.recordWith, Functor.map, Seq.seq, Fields.seq, Fields.pure,
      Fields.list, Fields.field, hitems, List.lookup_cons, Except.mapError]
  all_goals cases h

/-- Rendering the typed block gives the raw value again where that is rendered already. -/
theorem unsigned_toRaw_iff (h : SpelledBy raw block) :
    unsigned block.toRaw = unsigned raw ↔ IsRendered raw := by
  constructor
  · intro hdata
    exact ⟨block, h, decide_eq_true hdata⟩
  · rintro ⟨other, hother, hdata⟩
    obtain rfl := Except.ok.inj (h.symm.trans hother)
    exact of_decide_eq_true hdata

theorem unsigned_map_toRaw_iff {raw : Option Json} {block : Option ConditionBlock}
    (h : Option.Rel SpelledBy raw block) :
    unsigned (block.map toRaw) = unsigned raw ↔ ∀ value ∈ raw, IsRendered value :=
  unsigned_map_option_iff h fun _ _ => unsigned_toRaw_iff

end ConditionBlock

namespace Hub

/-! ## Match blocks -/

theorem ResourceFilter.toHub_toSpoke_iff (filter : ResourceFilter) :
    filter.toSpoke.toHub = filter ↔ filter.resources.name = "" := by
  constructor
  · intro heq
    exact (congrArg (fun filter => filter.resources.name) heq).symm
  · intro hname
    obtain ⟨user, _, name, names, _⟩ := filter
    obtain rfl : name = "" := hname
    simp [toSpoke, ResourceDescription.toSpoke, Spoke.ResourceFilter.toHub,
      Spoke.ResourceDescription.toHub]

theorem MatchBlock.hasInline_eq_false_iff (block : MatchBlock) :
    block.hasInline = false ↔ block.user = {} ∧ block.resources = {} := by
  obtain ⟨_, _, ⟨roles, clusterRoles, subjects⟩, resources⟩ := block
  simp [hasInline, UserInfo.isEmpty, ResourceDescription.isEmpty, and_assoc]

theorem MatchBlock.toHub_toSpoke_iff (block : MatchBlock) :
    block.toSpoke.toHub = block ↔ block.IsNormal := by
  cases hinline : block.hasInline with
  | true =>
      -- an inline filter is folded into a list, and nothing is folded out of one
      have hfolded : block.toSpoke.toHub.hasInline = false := rfl
      refine iff_of_false (fun heq => ?_) fun hnormal => ?_
      · rw [heq, hinline] at hfolded
        cases hfolded
      · cases hinline.symm.trans hnormal.1
  | false =>
      obtain ⟨huser, hresources⟩ := block.hasInline_eq_false_iff.mp hinline
      have hfolded : block.toSpoke.toHub = {
          any := block.any.map fun filter => filter.toSpoke.toHub
          all := block.all.map fun filter => filter.toSpoke.toHub
          user := block.user
          resources := block.resources } := by
        simp [toSpoke, hinline, Spoke.MatchBlock.toHub, Function.comp_def, huser, hresources]
      rw [hfolded, IsNormal, List.forall_mem_append, and_iff_right hinline]
      refine (MatchBlock.mk.injEq ..).to_iff.trans ?_
      simp only [List.map_eq_self_iff, ResourceFilter.toHub_toSpoke_iff, and_true]

/-! ## Blocks of rules -/

theorem Deny.MapsTo.unsigned_toHub_iff {d : Deny} {x : Spoke.Deny} (h : d.MapsTo x) :
    unsigned x.toHub = unsigned d ↔ ∀ raw ∈ d.conditions, ConditionBlock.IsRendered raw :=
  (Deny.mk.injEq ..).to_iff.trans (ConditionBlock.unsigned_map_toRaw_iff h)

theorem Validation.MapsTo.unsigned_toHub_iff {v : Validation} {x : Spoke.Validation}
    (h : v.MapsTo x) :
    unsigned x.toHub = unsigned v ↔
      ∀ deny ∈ v.deny, ∀ raw ∈ deny.conditions, ConditionBlock.IsRendered raw := by
  have hdeny := unsigned_map_option_iff h.deny fun _ _ => Deny.MapsTo.unsigned_toHub_iff
  refine (Validation.mk.injEq ..).to_iff.trans ?_
  rw [h.rest]
  exact ⟨fun ⟨_, _, _, _, _, hsame, _⟩ => hdeny.mp hsame,
    fun hrendered => ⟨rfl, rfl, rfl, rfl, rfl, hdeny.mpr hrendered, rfl, rfl⟩⟩

theorem MutationTarget.MapsTo.unsigned_toHub_iff {t : MutationTarget} {x : Spoke.MutationTarget}
    (h : t.MapsTo x) :
    unsigned x.toHub = unsigned t ↔ ∀ raw ∈ t.preconditions, ConditionBlock.IsRendered raw := by
  have hpreconditions := ConditionBlock.unsigned_map_toRaw_iff h.preconditions
  refine (MutationTarget.mk.injEq ..).to_iff.trans ?_
  rw [h.rest]
  exact ⟨fun ⟨_, _, hsame⟩ => hpreconditions.mp hsame,
    fun hrendered => ⟨rfl, rfl, hpreconditions.mpr hrendered⟩⟩

theorem Mutation.MapsTo.unsigned_toHub_iff {m : Mutation} {x : Spoke.Mutation} (h : m.MapsTo x) :
    unsigned x.toHub = unsigned m ↔
      ∀ target ∈ m.targets, ∀ raw ∈ target.preconditions, ConditionBlock.IsRendered raw := by
  have htargets := unsigned_map_list_iff h.targets fun _ _ =>
    MutationTarget.MapsTo.unsigned_toHub_iff
  refine (Mutation.mk.injEq ..).to_iff.trans ?_
  rw [h.rest]
  exact ⟨fun ⟨hsame, _⟩ => htargets.mp hsame,
    fun hrendered => ⟨htargets.mpr hrendered, rfl, rfl, rfl⟩⟩

theorem Attestation.unsigned_toHub_iff (a : Attestation) :
    unsigned a.toSpoke.toHub = unsigned a ↔ a.predicateType = "" := by
  constructor
  · intro hdata
    exact (congrArg Attestation.predicateType hdata).symm
  · intro htype
    obtain ⟨predicateType⟩ := a
    obtain rfl : predicateType = "" := htype
    rfl

theorem ImageVerification.unsigned_toHub_iff (v : ImageVerification) :
    unsigned v.toSpoke.toHub = unsigned v ↔ v.IsNormal := by
  have htypes := unsigned_map_map_iff v.attestations Attestation.unsigned_toHub_iff
  refine (ImageVerification.mk.injEq ..).to_iff.trans ?_
  constructor
  · rintro ⟨-, himage, -, -, hkey, hroots, hsubject, hissuer, hextensions, -, hattestations,
      hannotations, -⟩
    exact ⟨himage.symm, hkey.symm, hroots.symm, hsubject.symm, hissuer.symm, hextensions.symm,
      hannotations.symm, htypes.mp hattestations⟩
  · rintro ⟨himage, hkey, hroots, hsubject, hissuer, hextensions, hannotations, hpredicates⟩
    have hreferences : v.allImageReferences = v.imageReferences := by
      simp [allImageReferences, himage]
    have hsigner : v.legacyAttestorSet = none := by
      simp [legacyAttestorSet, hkey, hroots, hsubject, hissuer, hextensions]
    have hattestors : v.attestors ++ v.legacyAttestorSet.toList = v.attestors := by
      rw [hsigner, Option.toList_none, List.append_nil]
    exact ⟨rfl, himage.symm, hreferences, rfl, hkey.symm, hroots.symm, hsubject.symm, hissuer.symm,
      hextensions.symm, congrArg unsigned hattestors, htypes.mpr hpredicates, hannotations.symm,
      rfl, rfl, rfl, rfl, rfl, rfl⟩

/-! ## Rules -/

/-- A rule comes back as the data it was exactly when it is in normal form. -/
theorem Rule.MapsTo.unsigned_toHub_iff {r : Rule} {x : Spoke.Rule} (h : r.MapsTo x) :
    unsigned x.toHub = unsigned r ↔ r.IsNormal := by
  have hexclude : (r.exclude.map MatchBlock.toSpoke).map Spoke.MatchBlock.toHub = r.exclude ↔
      ∀ block ∈ r.exclude, block.IsNormal := by
    cases r.exclude <;> simp [MatchBlock.toHub_toSpoke_iff]
  have hpreconditions := ConditionBlock.unsigned_map_toRaw_iff h.preconditions
  have hdeny := unsigned_map_option_iff h.validation fun _ _ =>
    Validation.MapsTo.unsigned_toHub_iff
  have htargets := unsigned_map_option_iff h.mutation fun _ _ => Mutation.MapsTo.unsigned_toHub_iff
  have himages := unsigned_map_map_iff r.verifyImages ImageVerification.unsigned_toHub_iff
  have hgeneration : (r.generation.map Generation.toSpoke).map Spoke.Generation.toHub =
      r.generation := by
    rw [Option.map_map]
    exact Option.map_id' ..
  refine (Rule.mk.injEq ..).to_iff.trans ?_
  rw [h.rest]
  constructor
  · rintro ⟨-, hmatch, hexcluded, -, hrendered, hvalidation, hmutation, -, hverified⟩
    exact ⟨r.matchBlock.toHub_toSpoke_iff.mp hmatch, hexclude.mp hexcluded,
      hpreconditions.mp hrendered, hdeny.mp hvalidation, htargets.mp hmutation,
      himages.mp hverified⟩
  · rintro ⟨hmatch, hexcluded, hrendered, hvalidation, hmutation, hverified⟩
    exact ⟨rfl, r.matchBlock.toHub_toSpoke_iff.mpr hmatch, hexclude.mpr hexcluded, rfl,
      hpreconditions.mpr hrendered, hdeny.mpr hvalidation, htargets.mpr hmutation,
      congrArg unsigned hgeneration, himages.mpr hverified⟩

/-! ## What a mapped rule maps back to -/

theorem Deny.MapsTo.toHub {d : Deny} {x : Spoke.Deny} (h : d.MapsTo x) : x.toHub.MapsTo x :=
  h.map_self fun _ _ => ConditionBlock.SpelledBy.toRaw

theorem Validation.MapsTo.toHub {v : Validation} {x : Spoke.Validation} (h : v.MapsTo x) :
    x.toHub.MapsTo x := by
  refine ⟨h.deny.map_self fun _ _ => Deny.MapsTo.toHub, ?_⟩
  rw [h.rest]
  rfl

theorem MutationTarget.MapsTo.toHub {t : MutationTarget} {x : Spoke.MutationTarget}
    (h : t.MapsTo x) : x.toHub.MapsTo x :=
  ⟨h.preconditions.map_self fun _ _ => ConditionBlock.SpelledBy.toRaw, rfl⟩

theorem Mutation.MapsTo.toHub {m : Mutation} {x : Spoke.Mutation} (h : m.MapsTo x) :
    x.toHub.MapsTo x := by
  refine ⟨h.targets.map_self fun _ _ => MutationTarget.MapsTo.toHub, ?_⟩
  rw [h.rest]
  rfl

/-- What a rule maps to is what the rule it is mapped back to maps to. -/
theorem Rule.MapsTo.toHub {r : Rule} {x : Spoke.Rule} (h : r.MapsTo x) : x.toHub.MapsTo x := by
  refine ⟨h.preconditions.map_self fun _ _ => ConditionBlock.SpelledBy.toRaw,
    h.validation.map_self fun _ _ => Validation.MapsTo.toHub,
    h.mutation.map_self fun _ _ => Mutation.MapsTo.toHub, ?_⟩
  have hgeneration : (x.generation.map Spoke.Generation.toHub).map Generation.toSpoke =
      x.generation := by
    rw [h.rest, Option.map_map, Option.map_map]
    rfl
  simp [Spoke.Rule.toHub, hgeneration, Function.comp_def, Spoke.MatchBlock.toSpoke_toHub,
    Spoke.ImageVerification.toSpoke_toHub]

/-! ## Specs -/

namespace Spec

variable {s : Spec} {spec : Spoke.Spec}

/-- What a spec maps to reads back. -/
theorem readsBack_toSpoke (h : s.toSpoke = .ok spec) : spec.ReadsBack := by
  intro rule hrule
  obtain ⟨r, -, hmaps⟩ := List.exists_of_forall₂_right (toSpoke_stripped h) hrule
  rw [← rule.toHub_stripped]
  exact hmaps.toHub

/-- The values of a spec are those its mapped rules supply, unless no rule is of their kind. -/
theorem only_ofSpoke_iff (h : s.toSpoke = .ok spec) (kind : RuleKind) :
    (Routed.ofSpoke spec).only kind = (Routed.ofHub s).only kind ↔
      (Routed.ofHub s).only kind = {} ∨ ∃ rule ∈ s.rules, rule.kind = kind := by
  by_cases hexists : ∃ rule ∈ s.rules, rule.kind = kind
  · obtain ⟨rule, hrule, rfl⟩ := hexists
    exact iff_of_true (only_ofSpoke h hrule) (.inr ⟨rule, hrule, rfl⟩)
  · have hnone : ∀ rule ∈ s.rules, rule.kind ≠ kind := fun rule hrule hkind =>
      hexists ⟨rule, hrule, hkind⟩
    rw [only_ofSpoke_of_forall_ne h hnone, or_iff_left hexists, eq_comm]

/-- Routing what the mapped rules supply into them changes nothing. -/
theorem rerouted_ofSpoke (h : s.toSpoke = .ok spec) :
    spec.rerouted (Routed.ofSpoke spec) = spec := by
  have hself := Spoke.Spec.rerouted_eq_self_iff.mp (rerouted_toSpoke h)
  refine Spoke.Spec.rerouted_eq_self_iff.mpr fun rule hrule => ?_
  obtain ⟨r, hr, hkind⟩ := exists_kind_toSpoke h hrule
  have hvalues := only_ofSpoke h hr
  rw [hkind, ← rule.kind_stripped] at hvalues
  rw [Routed.routeInto_congr hvalues]
  exact hself rule hrule

/-- What a spec maps to maps back to a spec that maps to it again. -/
theorem toSpoke_toHub (h : s.toSpoke = .ok spec) : spec.toHub.toSpoke = .ok spec := by
  rw [(readsBack_toSpoke h).toSpoke_toHub, rerouted_ofSpoke h]

/-- A spec that maps comes back as the data it was exactly when it is in normal form. -/
theorem unsigned_toHub_iff (h : s.toSpoke = .ok spec) :
    unsigned spec.toHub = unsigned s ↔ s.IsNormal := by
  have hrules : unsigned (spec.rules.map Spoke.Rule.toHub) = unsigned s.rules ↔
      ∀ rule ∈ s.rules, rule.IsNormal := by
    refine unsigned_map_list_iff (toSpoke_stripped h) fun r rule hmaps => ?_
    rw [← rule.toHub_stripped]
    exact hmaps.unsigned_toHub_iff
  have haction : (Routed.ofSpoke spec).action = s.validationFailureAction ↔
      s.validationFailureAction = none ∨ ∃ rule ∈ s.rules, rule.kind = .validate := by
    simpa [Routed.only, Routed.ofHub] using only_ofSpoke_iff h .validate
  have hmutate : (Routed.ofSpoke spec).mutateExisting = s.mutateExistingOnPolicyUpdate ↔
      s.mutateExistingOnPolicyUpdate = false ∨ ∃ rule ∈ s.rules, rule.kind = .mutate := by
    simpa [Routed.only, Routed.ofHub] using only_ofSpoke_iff h .mutate
  have hgenerate : (Routed.ofSpoke spec).generateExisting = s.generateExisting ↔
      s.generateExisting = false ∨ ∃ rule ∈ s.rules, rule.kind = .generate := by
    simpa [Routed.only, Routed.ofHub] using only_ofSpoke_iff h .generate
  refine (Spec.mk.injEq ..).to_iff.trans ?_
  obtain ⟨typed, -, rfl⟩ := toSpoke_eq_ok_iff.mp h
  constructor
  · rintro ⟨hback, hvalue, hoverrides, -, -, -, -, hschema, -, hexisting, hgenerated, hupdate, -⟩
    exact ⟨hoverrides.symm, hupdate.symm, hschema.symm, hrules.mp hback, haction.mp hvalue,
      hmutate.mp hexisting, hgenerate.mp hgenerated⟩
  · rintro ⟨hoverrides, hupdate, hschema, hnormal, hvalue, hexisting, hgenerated⟩
    exact ⟨hrules.mpr hnormal, haction.mpr hvalue, hoverrides.symm, rfl, rfl, rfl, rfl,
      hschema.symm, rfl, hmutate.mpr hexisting, hgenerate.mpr hgenerated, hupdate.symm, rfl, rfl⟩

end Spec

end Hub

end HubSpoke
