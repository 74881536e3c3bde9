import HubSpoke.Proofs.Validation.Match
import HubSpoke.Validation.Image

/-!
# Well-formed image verifications

Of an image verification everything but the rewriting of digests is checked alike, whether failures
are reported or enforced.
-/

namespace HubSpoke

/-! ## Attestors -/

/-- The attestor may be in a notary check. -/
def Attestor.FitsNotary (a : Attestor) : Prop :=
  a.keys = none ∧ a.keyless = none

/-- What may not be in a notary check says who the attestor is. -/
theorem Attestor.isDescribed_of_not_fitsNotary {a : Attestor} (h : ¬ a.FitsNotary) :
    a.isDescribed := by
  cases hkeys : a.keys <;> cases hkeyless : a.keyless <;>
    simp_all [FitsNotary, isDescribed]

theorem Attestor.notaryFindings_eq_nil_iff {isNotary : Bool} {path : FieldPath} {a : Attestor} :
    a.notaryFindings isNotary path = [] ↔ (isNotary → a.FitsNotary) := by
  cases isNotary <;> cases hkeys : a.keys <;> cases hkeyless : a.keyless <;>
    simp [notaryFindings, notaryDefect?, FitsNotary, hkeys, hkeyless]

/-- The set has entries, each says who its attestor is, and a count given can be reached. -/
structure AttestorSet.WellFormed (isNotary : Bool) (set : AttestorSet) : Prop where
  entries : set.entries ≠ []
  count : ∀ count ∈ set.count, 1 ≤ count.toInt ∧ count.toInt ≤ set.entries.length
  described : ∀ entry ∈ set.entries, entry.isDescribed
  notary : isNotary → ∀ entry ∈ set.entries, entry.FitsNotary

theorem AttestorSet.findings_eq_nil_iff {isNotary : Bool} {path : FieldPath} {set : AttestorSet} :
    set.findings isNotary path = [] ↔ set.WellFormed isNotary := by
  simp only [findings, List.append_eq_nil_iff, Finding.require_eq_nil_iff, Bool.not_eq_true',
    List.isEmpty_eq_false_iff, List.flatMap_eq_nil_iff, Prod.forall,
    Attestor.notaryFindings_eq_nil_iff, forall_mem_zipIdx_iff]
  constructor
  · rintro ⟨⟨hentries, hreached⟩, hentry⟩
    refine ⟨hentries, fun count hcount => ?_, fun entry h => (hentry entry h).1,
      fun hnotary entry h => (hentry entry h).2 hnotary⟩
    rw [Option.mem_def.mp hcount] at hreached
    exact of_decide_eq_true hreached
  · rintro ⟨hentries, hreached, hdescribed, hnotary⟩
    refine ⟨⟨hentries, ?_⟩, fun entry h => ⟨hdescribed entry h, fun his => hnotary his entry h⟩⟩
    cases hcount : set.count with
    | none => rfl
    | some count => exact decide_eq_true (hreached count hcount)

theorem AttestorSet.listFindings_eq_nil_iff {isNotary : Bool} {path : FieldPath}
    {sets : List AttestorSet} :
    listFindings isNotary path sets = [] ↔ ∀ set ∈ sets, set.WellFormed isNotary := by
  simp only [listFindings, List.flatMap_eq_nil_iff, Prod.forall, findings_eq_nil_iff,
    forall_mem_zipIdx_iff]

/-! ## Image verifications -/

namespace ImageView

/-- An image is referred to, and the attestor sets are well formed.  Of the single signer of older
documents only its place in a notary check matters. -/
structure WellFormed (v : ImageView) : Prop where
  references : ∃ reference ∈ v.references, Text.isBlank reference = false
  attestors : ∀ set ∈ v.attestors, set.WellFormed v.isNotary
  attestations : ∀ sets ∈ v.attestations, ∀ set ∈ sets, set.WellFormed v.isNotary
  legacy : ∀ set ∈ v.legacy, ∀ entry ∈ set.entries, v.isNotary → entry.FitsNotary

variable {v : ImageView} {isAudit : Bool} {path : FieldPath}

/-- Digests that are rewritten are told of, and else the findings are those of enforced checks. -/
theorem findings_eq : v.findings isAudit path =
    Finding.require (!(isAudit && v.mutateDigest)) (path.child "mutateDigest")
      .mutateDigestInAudit ++ v.findings false path := by
  simp [findings, Finding.require]

theorem findings_false_eq_nil_iff : v.findings false path = [] ↔ v.WellFormed := by
  simp only [findings, List.append_eq_nil_iff, Finding.require_eq_nil_iff, Bool.false_and,
    Bool.not_false, true_and, List.any_eq_true, Bool.not_eq_true', List.flatMap_eq_nil_iff,
    Prod.forall, AttestorSet.listFindings_eq_nil_iff, Attestor.notaryFindings_eq_nil_iff,
    forall_mem_zipIdx_iff, Option.mem_toList]
  constructor
  · rintro ⟨⟨⟨hreferences, hattestors⟩, hattestations⟩, hlegacy⟩
    exact ⟨hreferences, hattestors, hattestations, hlegacy⟩
  · rintro ⟨hreferences, hattestors, hattestations, hlegacy⟩
    exact ⟨⟨⟨hreferences, hattestors⟩, hattestations⟩, hlegacy⟩

theorem findings_eq_nil_iff :
    v.findings isAudit path = [] ↔ v.WellFormed ∧ (isAudit → v.mutateDigest = false) := by
  have hdigests : Finding.require (!(isAudit && v.mutateDigest)) (path.child "mutateDigest")
      .mutateDigestInAudit = [] ↔ (isAudit → v.mutateDigest = false) := by
    cases isAudit <;> simp
  rw [findings_eq, List.append_eq_nil_iff, findings_false_eq_nil_iff, hdigests, and_comm]

/-- All that can be wrong with a well-formed check is that it rewrites digests. -/
theorem WellFormed.defect_of_mem (hv : v.WellFormed) {finding : Finding}
    (h : finding ∈ v.findings isAudit path) : finding.defect = .mutateDigestInAudit := by
  rw [findings_eq, findings_false_eq_nil_iff.mpr hv, List.append_nil, Finding.require] at h
  split at h
  case isTrue => simp at h
  case isFalse =>
    rw [List.mem_singleton.mp h]

end ImageView

namespace Hub.ImageVerification

/-- An image is referred to, and the attestor sets are well formed.  Of the single key and identity
of older documents only their place in a notary check matters. -/
structure WellFormed (v : ImageVerification) : Prop where
  references : ∃ reference ∈ v.allImageReferences, Text.isBlank reference = false
  attestors : ∀ set ∈ v.attestors, set.WellFormed v.isNotary
  attestations : ∀ attestation ∈ v.attestations, ∀ set ∈ attestation.attestors,
    set.WellFormed v.isNotary
  legacy : ∀ set ∈ v.legacyAttestorSet, ∀ entry ∈ set.entries, v.isNotary → entry.FitsNotary

theorem wellFormed_view_iff {v : ImageVerification} : v.view.WellFormed ↔ v.WellFormed :=
  ⟨fun h => ⟨h.references, h.attestors, List.forall_mem_map.mp h.attestations, h.legacy⟩,
    fun h => ⟨h.references, h.attestors, List.forall_mem_map.mpr h.attestations, h.legacy⟩⟩

end Hub.ImageVerification

end HubSpoke
