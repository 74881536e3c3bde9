import HubSpoke.Proofs.Conversion.Precedence
import HubSpoke.Proofs.Mapping.Readable
import HubSpoke.Proofs.Policy.Metadata

/-!
# What was converted can be read

A conversion leaves the kind, the status and all metadata but the annotations as they are.  So
whether its result can be read from a document is a question about the spec alone.
-/

namespace HubSpoke

open Codec.Lawful (builds_of_record)
open Fields (builds_seq builds_map decoded_of_default Spelled)

/-! ## The parts of a policy -/

theorem PolicyKind.reads (kind : PolicyKind) : codec.Reads kind :=
  ⟨codec.encode kind, by cases kind <;> rfl⟩

/-- What a policy of either version holds beside its spec can be read. -/
structure ReadsBesideSpec (metadata : Metadata) (status : Option Json) : Prop where
  metadata : Metadata.codec.Reads metadata
  status : Codec.json.optional.Reads status

namespace ReadsBesideSpec

variable {metadata : Metadata} {status : Option Json}

theorem of_build {π : Type} {getMetadata : π → Metadata} {getStatus : π → Option Json}
    {given : List (String × Json)}
    (hmetadata : (Fields.shown "metadata" Metadata.codec {} getMetadata).build given = .ok metadata)
    (hstatus : (Fields.optional "status" .json getStatus).build given = .ok status) :
    ReadsBesideSpec metadata status := by
  have hblank : Metadata.codec.decode (.obj []) = .ok {} := rfl
  have hnull : Codec.json.optional.decode .null = .ok none := rfl
  obtain ⟨_, hmetadata, -⟩ := decoded_of_default hblank hmetadata
  obtain ⟨_, hstatus, -⟩ := decoded_of_default hnull hstatus
  exact ⟨⟨_, hmetadata⟩, ⟨_, hstatus⟩⟩

theorem annotated (h : ReadsBesideSpec metadata status) (annotations : KeyMap String) :
    ReadsBesideSpec { metadata with annotations } status where
  metadata := Metadata.reads_annotations h.metadata annotations
  status := h.status

end ReadsBesideSpec

/-- A policy can be read just when its parts can. -/
theorem Hub.Policy.reads_iff {policy : Policy} :
    codec.Reads policy ↔
      ReadsBesideSpec policy.metadata policy.status ∧ Spec.codec.Reads policy.spec := by
  constructor
  · rintro ⟨_, hdecode⟩
    obtain ⟨given, hbuild, -⟩ := builds_of_record hdecode
    simp only [fields, builds_seq, builds_map] at hbuild
    obtain ⟨kind, -, metadata, hmetadata, spec, hspec, status, hstatus, rfl⟩ := hbuild
    have hblank : Spec.codec.decode (.obj []) = .ok {} := rfl
    obtain ⟨_, hspec, -⟩ := decoded_of_default hblank hspec
    exact ⟨.of_build hmetadata hstatus, ⟨_, hspec⟩⟩
  · rintro ⟨hbeside, hspec⟩
    apply Spelled.reads
    · exact (Spelled.of_reads (PolicyKind.reads _)).map
        |>.seq (.of_reads hbeside.metadata)
        |>.seq (.of_reads hspec)
        |>.seq (.of_reads hbeside.status)
    · decide

theorem Spoke.Policy.reads_iff {policy : Policy} :
    codec.Reads policy ↔
      ReadsBesideSpec policy.metadata policy.status ∧ Spec.codec.Reads policy.spec := by
  constructor
  · rintro ⟨_, hdecode⟩
    obtain ⟨given, hbuild, -⟩ := builds_of_record hdecode
    simp only [fields, builds_seq, builds_map] at hbuild
    obtain ⟨kind, -, metadata, hmetadata, spec, hspec, status, hstatus, rfl⟩ := hbuild
    have hblank : Spec.codec.decode (.obj []) = .ok {} := rfl
    obtain ⟨_, hspec, -⟩ := decoded_of_default hblank hspec
    exact ⟨.of_build hmetadata hstatus, ⟨_, hspec⟩⟩
  · rintro ⟨hbeside, hspec⟩
    apply Spelled.reads
    · exact (Spelled.of_reads (PolicyKind.reads _)).map
        |>.seq (.of_reads hbeside.metadata)
        |>.seq (.of_reads hspec)
        |>.seq (.of_reads hbeside.status)
    · decide

/-! ## From the hub -/

namespace Hub.Policy

variable [Json.FloatReading] {policy : Policy} {result : Converted Spoke.Policy}

/-- A converted hub differs from the hub in its annotations and its spec. -/
theorem exists_convert_eq (h : policy.convert = .ok result) :
    ∃ annotations, result.policy = {
      kind := policy.kind
      metadata := { policy.metadata with annotations }
      spec := result.policy.spec
      status := policy.status } := by
  obtain ⟨_, _, plain, -, -, -, rfl⟩ := convert_eq_ok_iff.mp h
  cases sameData plain.policy policy with
  | true => exact ⟨_, rfl⟩
  | false => exact ⟨_, rfl⟩

/-- What a hub that was read converts to can be read. -/
theorem reads_convert (hreads : codec.Reads policy) (h : policy.convert = .ok result) :
    Spoke.Policy.codec.Reads result.policy := by
  obtain ⟨hbeside, hspec⟩ := reads_iff.mp hreads
  obtain ⟨restored, fresh, -, hfresh, hresult⟩ := exists_laidOver h
  have hstripped : result.policy.spec.stripped = fresh.stripped := by
    rw [hresult, stripped_laidOver]
  obtain ⟨annotations, heq⟩ := exists_convert_eq h
  rw [heq]
  exact Spoke.Policy.reads_iff.mpr
    ⟨hbeside.annotated annotations, Spec.reads_of_stripped hspec hfresh hstripped⟩

end Hub.Policy

/-! ## From the spoke -/

namespace Spoke.Policy

variable {policy : Policy} {result : Converted Hub.Policy}

theorem exists_stashedHub_eq (policy : Policy) (saved : Stashed Hub.Spec) :
    ∃ annotations, policy.stashedHub saved = {
      kind := policy.kind
      metadata := { policy.metadata with annotations }
      spec := saved.spec
      status := policy.status } := by
  unfold stashedHub
  cases saved.sourceAnnotation with
  | none => exact ⟨_, rfl⟩
  | some carried => exact ⟨_, rfl⟩

theorem exists_mapToHub_eq {saved : Option Hub.Spec}
    (h : policy.mapToHub policy.metadata.withoutPayload saved = .ok result) :
    ∃ annotations, result.policy = {
      kind := policy.kind
      metadata := { policy.metadata with annotations }
      spec := result.policy.spec
      status := policy.status } := by
  obtain ⟨spec, again, -, -, rfl⟩ := mapToHub_eq_ok_iff.mp h
  cases sameData again policy.spec with
  | true => exact ⟨_, rfl⟩
  | false => exact ⟨_, rfl⟩

variable [Json.FloatReading]

/-- A converted spoke differs from the spoke in its annotations and its spec. -/
theorem exists_convert_eq (h : policy.convert = .ok result) :
    ∃ annotations, result.policy = {
      kind := policy.kind
      metadata := { policy.metadata with annotations }
      spec := result.policy.spec
      status := policy.status } := by
  obtain ⟨restored, -, hcase⟩ := convert_eq_ok_iff.mp h
  cases restored with
  | none => exact exists_mapToHub_eq hcase
  | some saved =>
      obtain ⟨converted, -, hresult⟩ := hcase
      split at hresult
      case isTrue =>
        -- the spoke has not been edited, so the stashed hub is its result
        obtain rfl := hresult
        obtain ⟨annotations, heq⟩ := exists_stashedHub_eq policy saved
        rw [heq]
        exact ⟨annotations, rfl⟩
      case isFalse => exact exists_mapToHub_eq hresult

/-- What a spoke that was read converts to can be read if its spec can. -/
theorem reads_convert (hreads : codec.Reads policy) (h : policy.convert = .ok result)
    (hspec : Hub.Spec.codec.Reads result.policy.spec) :
    Hub.Policy.codec.Reads result.policy := by
  obtain ⟨hbeside, -⟩ := reads_iff.mp hreads
  obtain ⟨annotations, heq⟩ := exists_convert_eq h
  rw [heq]
  exact Hub.Policy.reads_iff.mpr ⟨hbeside.annotated annotations, hspec⟩

end Spoke.Policy

end HubSpoke
