import HubSpoke.Proofs.Hub.Codecs
import HubSpoke.Proofs.Policy.Document
import HubSpoke.Proofs.Policy.Metadata
import HubSpoke.Proofs.Spoke.Codecs

/-!
# Policies read back

A policy that can be read at all is read back from the document it is rendered as.  The version goes
among the members of the policy, where no field looks for it.
-/

namespace HubSpoke

open Codec.Lawful (builds_of_record)
open Fields (builds_seq builds_map Echoes)

/-! ## The fields of a policy -/

theorem PolicyKind.codec_plain : PolicyKind.codec.Plain 0 :=
  .choice fun value => by cases value <;> rfl

variable {change : Binary64 → Json} {given : List (String × Json)}

instance : HoldsFloats Hub.Policy where
  mapFloats change p := { p with
    metadata := mapFloats change p.metadata
    spec := mapFloats change p.spec
    status := mapFloats change p.status }
  mapFloats_float p := by simp only [mapFloats_float]

theorem Hub.Policy.fields_echo {policy : Policy} (h : fields.Builds given (· = policy)) :
    fields.Echoes change given 13 policy (mapFloats change policy)
      ["kind", "metadata", "spec", "status"] := by
  simp only [fields, builds_seq, builds_map] at h
  obtain ⟨kind, hkind, metadata, hmetadata, spec, hspec, status, hstatus, rfl⟩ := h
  exact (Echoes.required PolicyKind.codec_plain hkind).map
    |>.seq (.shown (.obj []) Metadata.codec_lawful hmetadata rfl rfl)
    |>.seq (.shown (.obj []) Spec.codec_lawful hspec rfl rfl)
    |>.seq (.optional .json hstatus)

instance : HoldsFloats Spoke.Policy where
  mapFloats change p := { p with
    metadata := mapFloats change p.metadata
    spec := mapFloats change p.spec
    status := mapFloats change p.status }
  mapFloats_float p := by simp only [mapFloats_float]

theorem Spoke.Policy.fields_echo {policy : Policy} (h : fields.Builds given (· = policy)) :
    fields.Echoes change given 13 policy (mapFloats change policy)
      ["kind", "metadata", "spec", "status"] := by
  simp only [fields, builds_seq, builds_map] at h
  obtain ⟨kind, hkind, metadata, hmetadata, spec, hspec, status, hstatus, rfl⟩ := h
  exact (Echoes.required PolicyKind.codec_plain hkind).map
    |>.seq (.shown (.obj []) Metadata.codec_lawful hmetadata rfl rfl)
    |>.seq (.shown (.obj []) Spec.codec_lawful hspec rfl rfl)
    |>.seq (.optional .json hstatus)

/-! ## Documents of policies -/

namespace AnyPolicy

/-- Some document holds the policy, whatever version it names. -/
def Reads : AnyPolicy → Prop
  | .hub policy => Hub.Policy.codec.Reads policy
  | .spoke policy => Spoke.Policy.codec.Reads policy

theorem mapFloats_float_option (item : Option Json) : item.map (Json.mapFloats .float) = item :=
  mapFloats_float item

/-- A policy is read from what its fields rendered and the version, and so is the version. -/
theorem read_withVersion {σ : Type} {fields : Fields σ σ} {typeName : String} {floor : Nat}
    {policy value : σ} {keys : List String} {version : Json}
    (h : fields.Echoes .float given floor policy value keys) (hkeys : keys.Nodup)
    (hversion : "apiVersion" ∉ keys) {document : Json}
    (hdocument : document = .ofMembers (fields.members policy ++ [("apiVersion", version)])) :
    (Codec.record typeName fields).decode document = .ok value ∧
      document.member? "apiVersion" = some version := by
  have hnodup : ((fields.members policy ++ [("apiVersion", version)]).map Prod.fst).Nodup := by
    rw [List.map_append]
    refine List.nodup_append.mpr ⟨h.sublist.nodup hkeys, List.pairwise_singleton _ _, ?_⟩
    rintro key hkey _ hother rfl
    rw [List.mem_singleton.mp hother] at hkey
    exact hversion (h.sublist.subset hkey)
  have hlookup (key : String) :
      (KeyMap.sort (fields.members policy ++ [("apiVersion", version)])).lookup key =
        ((fields.members policy).lookup key).or ([("apiVersion", version)].lookup key) :=
    (KeyMap.lookup_sort hnodup).trans List.lookup_append
  -- no field looks under the name of the version, and the version under no other
  subst hdocument
  constructor
  · refine Except.mapError_eq_ok_iff.mpr (h.rebuild Json.numeric_float hkeys fun key hkey => ?_)
    have hother : key ≠ "apiVersion" := fun heq => hversion (heq ▸ hkey)
    simp [hlookup, KeyMap.lookup_entry, hother, mapFloats_float_option]
  · have hnone := KeyMap.lookup_eq_none_of_not_mem fun hmem => hversion (h.sublist.subset hmem)
    simp [Json.ofMembers, Json.member?, hlookup, hnone]

/-- A policy that some document holds is held by the document it is rendered as. -/
theorem ofJson_toJson {policy : AnyPolicy} (h : policy.Reads) :
    ofJson policy.toJson = .ok policy := by
  cases policy with
  | hub policy =>
      obtain ⟨_, hdecode⟩ := h
      obtain ⟨given, hbuild, -⟩ := builds_of_record hdecode
      obtain ⟨hagain, hversion⟩ := read_withVersion (Hub.Policy.fields_echo hbuild) (by decide)
        (by decide) (rfl : (hub policy).toJson = _)
      rw [mapFloats_float] at hagain
      exact ofJson_eq_ok_iff.mpr ⟨hversion, hagain⟩
  | spoke policy =>
      obtain ⟨_, hdecode⟩ := h
      obtain ⟨given, hbuild, -⟩ := builds_of_record hdecode
      obtain ⟨hagain, hversion⟩ := read_withVersion (Spoke.Policy.fields_echo hbuild) (by decide)
        (by decide) (rfl : (spoke policy).toJson = _)
      rw [mapFloats_float] at hagain
      exact ofJson_eq_ok_iff.mpr ⟨hversion, hagain⟩

/-- A policy that was read from a document can be read. -/
theorem reads_of_ofJson {document : Json} {policy : AnyPolicy} (h : ofJson document = .ok policy) :
    policy.Reads := by
  cases policy with
  | hub policy => exact ⟨document, decode_of_ofJson h⟩
  | spoke policy => exact ⟨document, decode_of_ofJson h⟩

end AnyPolicy

/-- Whatever the spelling of the document a policy was read from, its rendering names the same
version, and the same policy is read from it. -/
theorem rendering_reads_back {document : Json} {policy : AnyPolicy}
    (h : AnyPolicy.ofJson document = .ok policy) :
    document.member? "apiVersion" = some (.str policy.version.name) ∧
      policy.toJson.member? "apiVersion" = some (.str policy.version.name) ∧
      AnyPolicy.ofJson policy.toJson = .ok policy := by
  have hagain := AnyPolicy.ofJson_toJson (AnyPolicy.reads_of_ofJson h)
  exact ⟨(AnyPolicy.ofJson_eq_ok_iff.mp h).1, (AnyPolicy.ofJson_eq_ok_iff.mp hagain).1, hagain⟩

/-- A spoke in unusual spellings: a kind written as an object, a lower-case action, a selector and a
subject written as arrays, nulls for absent values and among unknown keys, spread users and
references, and one of the flags that are on unless said otherwise. -/
def Json.unusualSpoke : Json :=
  .obj [("apiVersion", .str "kyverno.io/v2"), ("kind", .obj [("ClusterPolicy", .null)]),
    ("metadata", .obj [("finalizers", .null), ("name", .str "sample"), ("namespace", .null)]),
    ("spec", .obj [("background", .null), ("rules", .arr [.obj [
      ("match", .obj [("any", .arr [.obj [
        ("resources", .obj [("selector", .arr [.obj [("app", .str "web")]])]),
        ("roles", .arr [.str "admin"]),
        ("subjects", .arr [.arr [.str "User", .str "", .str "jane"]])]])]),
      ("mutate", .obj [("targets", .arr [.obj [("apiVersion", .str "v1"),
        ("kind", .str "ConfigMap"), ("preconditions", .null)]])]),
      ("validate", .obj [("validationFailureAction", .str "enforce")]),
      ("verifyImages", .arr [.obj [("required", .bool false)]])]])])]

theorem rendering_reads_back_unusual :
    ∃ policy, AnyPolicy.ofJson Json.unusualSpoke = .ok policy ∧ policy.version = .v2 ∧
      policy.toJson ≠ Json.unusualSpoke ∧
      policy.toJson.member? "apiVersion" = some (.str policy.version.name) ∧
      AnyPolicy.ofJson policy.toJson = .ok policy := by
  have hrun : (AnyPolicy.ofJson Json.unusualSpoke).any fun policy =>
      decide (policy.version = .v2 ∧ policy.toJson ≠ Json.unusualSpoke) := by
    decide +kernel
  obtain ⟨policy, hdocument, hasked⟩ := Except.any_iff.mp hrun
  obtain ⟨hversion, hother⟩ := of_decide_eq_true hasked
  obtain ⟨-, hnamed, hagain⟩ := rendering_reads_back hdocument
  exact ⟨policy, hdocument, hversion, hother, hnamed, hagain⟩

end HubSpoke
