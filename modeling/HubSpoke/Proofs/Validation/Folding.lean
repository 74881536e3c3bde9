import HubSpoke.Proofs.Mapping.RoundTrip
import HubSpoke.Proofs.Validation.Policy

/-!
# Folding keeps policies well formed

Going to the spoke, older spellings are folded into the lists that replaced them.  What was well
formed stays so: a single name joins names that were empty, an inline filter becomes the only one of
its block, and a single key or identity becomes a set of one entry that is described.
-/

namespace HubSpoke.Hub

/-! ## Match blocks -/

section MatchBlocks

variable {context : MatchContext}

theorem ResourceDescription.WellFormed.folded {d : ResourceDescription}
    (h : d.WellFormed context) : d.toSpoke.toHub.WellFormed context :=
  ⟨.inl rfl, h.kinds, h.namespaces, h.annotations, h.selector, h.namespaceSelector⟩

/-- Folding a name makes no description empty. -/
theorem ResourceDescription.isEmpty_folded (d : ResourceDescription) :
    d.toSpoke.toHub.isEmpty = d.isEmpty := by
  obtain ⟨_, name, names, _, _, _, _, _⟩ := d
  by_cases hname : name = "" <;>
    simp [isEmpty, toSpoke, Spoke.ResourceDescription.toHub, hname]

theorem ResourceFilter.WellFormed.folded {filter : ResourceFilter}
    (h : filter.WellFormed context) : filter.toSpoke.toHub.WellFormed context where
  constrains := by
    have hconstrains := h.constrains
    rwa [isEmpty, ← ResourceDescription.isEmpty_folded] at hconstrains
  user := h.user
  resources := h.resources.folded

/-- A folded block has lists alone, and the inline filter stands last in one of them: in that of
filters all of which must hold, where there are any. -/
theorem MatchBlock.view_toHub_toSpoke (block : MatchBlock) : block.toSpoke.toHub.view = {
      any := (block.any ++ if block.hasInline ∧ block.all = [] then [block.inline] else []).map
        fun filter => filter.toSpoke.toHub
      all := (block.all ++ if block.hasInline ∧ block.all ≠ [] then [block.inline] else []).map
        fun filter => filter.toSpoke.toHub
      inline := none } := by
  have hview : block.toSpoke.toHub.view = {
      any := block.toSpoke.any.map Spoke.ResourceFilter.toHub
      all := block.toSpoke.all.map Spoke.ResourceFilter.toHub
      inline := none } := rfl
  rw [hview, toSpoke]
  by_cases hinline : block.hasInline
  · by_cases hall : block.all = [] <;> simp [hinline, hall]
  · simp [hinline]

/-- A well-formed block is folded into its own lists, or into one that holds the inline filter. -/
theorem MatchBlock.view_folded {block : MatchBlock} (h : block.view.WellFormed context) :
    block.toSpoke.toHub.view =
      if block.hasInline then { any := [block.inline.toSpoke.toHub], all := [], inline := none }
      else {
        any := block.any.map fun filter => filter.toSpoke.toHub
        all := block.all.map fun filter => filter.toSpoke.toHub
        inline := none } := by
  rw [view_toHub_toSpoke]
  by_cases hinline : block.hasInline
  · -- beside an inline filter there are no lists to fold it into
    obtain ⟨hany, hall⟩ : block.any = [] ∧ block.all = [] := h.inline (by simp [view, hinline])
    simp [hinline, hany, hall]
  · simp [hinline]

theorem MatchBlock.isEmpty_folded {block : MatchBlock} (h : block.view.WellFormed context) :
    block.toSpoke.toHub.view.isEmpty = block.view.isEmpty := by
  rw [view_folded h]
  by_cases hinline : block.hasInline <;> simp [MatchView.isEmpty, view, hinline]

theorem MatchBlock.wellFormed_folded {block : MatchBlock} (h : block.view.WellFormed context) :
    block.toSpoke.toHub.view.WellFormed context := by
  rw [view_folded h]
  split
  case isTrue hinline =>
    have hsingle : block.inline.WellFormed context := h.single _ (by simp [view, hinline, inline])
    refine ⟨.inr rfl, nofun, fun filter hfilter => ?_, nofun, nofun⟩
    rw [List.mem_singleton.mp hfilter]
    exact hsingle.folded
  case isFalse =>
    refine ⟨?_, nofun, ?_, ?_, nofun⟩
    · exact h.lists.imp (fun hany => by simpa [view] using hany)
        fun hall => by simpa [view] using hall
    · exact List.forall_mem_map.mpr fun filter hfilter => (h.any filter hfilter).folded
    · exact List.forall_mem_map.mpr fun filter hfilter => (h.all filter hfilter).folded

end MatchBlocks

/-! ## Image verifications -/

namespace ImageVerification

variable {v : ImageVerification}

theorem allImageReferences_folded (v : ImageVerification) :
    v.toSpoke.toHub.allImageReferences = v.allImageReferences := by
  simp [allImageReferences, toSpoke, Spoke.ImageVerification.toHub]

/-- The single key and identity of older documents make a set of one entry, which has one of
them. -/
theorem exists_legacyAttestorSet_eq {set : AttestorSet} (hset : v.legacyAttestorSet = some set) :
    ∃ entry : Attestor, ¬ entry.FitsNotary ∧ set = { entries := [entry] } := by
  have hentry (keys : Option KeyAttestor) (keyless : Option KeylessAttestor)
      (hset : (if keys.isNone && keyless.isNone then none
        else some { entries := [{ keys, keyless, annotations := v.annotations }] }) = some set) :
      ∃ entry : Attestor, ¬ entry.FitsNotary ∧ set = { entries := [entry] } := by
    split at hset
    case isTrue => cases hset
    case isFalse hgiven =>
      refine ⟨_, ?_, (Option.some.inj hset).symm⟩
      cases keys <;> cases keyless <;> simp_all [Attestor.FitsNotary]
  exact hentry _ _ hset

theorem wellFormed_legacyAttestorSet {set : AttestorSet} (hset : v.legacyAttestorSet = some set)
    (hlegacy : ∀ entry ∈ set.entries, v.isNotary → entry.FitsNotary) :
    set.WellFormed v.isNotary := by
  obtain ⟨entry, hgiven, rfl⟩ := exists_legacyAttestorSet_eq hset
  refine ⟨List.cons_ne_nil _ _, nofun, fun other hother => ?_,
    fun hnotary entry hentry => hlegacy entry hentry hnotary⟩
  rw [List.mem_singleton.mp hother]
  exact Attestor.isDescribed_of_not_fitsNotary hgiven

theorem WellFormed.folded (h : v.WellFormed) : v.toSpoke.toHub.WellFormed where
  references := by
    rw [allImageReferences_folded]
    exact h.references
  attestors set hset := by
    rcases List.mem_append.mp hset with hset | hset
    · exact h.attestors set hset
    · -- the set that was made of a single key or identity
      have hlegacy : v.legacyAttestorSet = some set := Option.mem_toList.mp hset
      have hfound : set.WellFormed v.isNotary :=
        wellFormed_legacyAttestorSet hlegacy (h.legacy set hlegacy)
      exact hfound
  attestations attestation hattestation := by
    obtain ⟨shared, hshared, rfl⟩ := List.mem_map.mp hattestation
    obtain ⟨original, horiginal, rfl⟩ := List.mem_map.mp hshared
    exact h.attestations original horiginal
  legacy := nofun

end ImageVerification

/-! ## Rules -/

namespace Rule

variable {context : MatchContext} {r : Rule} {x : Spoke.Rule}

theorem kind_toHub (x : Spoke.Rule) : x.toHub.kind = x.kind := by
  simp [kind, Spoke.Rule.kind, Spoke.Rule.toHub]

theorem MapsTo.mutatesDigests_iff (hmaps : r.MapsTo x) :
    x.toHub.MutatesDigests ↔ r.MutatesDigests := by
  rw [hmaps.rest]
  simp [MutatesDigests, Spoke.Rule.toHub, ImageVerification.toSpoke,
    Spoke.ImageVerification.toHub]

/-- What a well-formed rule maps to is well formed. -/
theorem MapsTo.wellFormed (hmaps : r.MapsTo x) (h : r.WellFormed context) :
    x.toHub.WellFormed context := by
  have hkind : x.toHub.kind = r.kind := (kind_toHub x).trans hmaps.kind
  have hmatch : x.toHub.matchBlock = r.matchBlock.toSpoke.toHub := by rw [hmaps.rest]; rfl
  have hexclude : x.toHub.exclude = (r.exclude.map MatchBlock.toSpoke).map
      Spoke.MatchBlock.toHub := by rw [hmaps.rest]; rfl
  have himages : x.toHub.verifyImages = (r.verifyImages.map ImageVerification.toSpoke).map
      Spoke.ImageVerification.toHub := by rw [hmaps.rest]; rfl
  refine ⟨kind_ne_empty_iff.mp (hkind ▸ kind_ne_empty_iff.mpr h.acts), ?_, ?_, ?_, ?_⟩
  · rw [hmatch, MatchBlock.isEmpty_folded h.matchBlock, h.selects]
  · rw [hmatch]
    exact MatchBlock.wellFormed_folded h.matchBlock
  · intro block hblock
    rw [hexclude, Option.map_map] at hblock
    obtain ⟨original, horiginal, rfl⟩ := Option.map_eq_some_iff.mp hblock
    exact MatchBlock.wellFormed_folded (h.exclude original horiginal)
  · intro image himage
    rw [himages, List.map_map] at himage
    obtain ⟨original, horiginal, rfl⟩ := List.mem_map.mp himage
    exact (h.images original horiginal).folded

end Rule

end HubSpoke.Hub
