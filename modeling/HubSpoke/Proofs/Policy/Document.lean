import HubSpoke.Policy.Document
import HubSpoke.Proofs.Record.Spelled

/-!
# What a policy document holds

The spec of a policy that was read from a document was itself decoded, from a part of the document
or from the empty object that stands for an absent spec.
-/

namespace HubSpoke

open Codec.Lawful (builds_of_record)
open Fields (builds_seq builds_map decoded_of_default)

theorem ApiVersion.ofName?_name (version : ApiVersion) : ofName? version.name = some version := by
  cases version <;> decide

theorem Json.str?_eq_some_iff {value : Json} {text : String} :
    value.str? = some text ↔ value = .str text := by
  cases value <;> simp [str?]

/-- A spec was decoded from a part of a document. -/
def Json.HoldsSpec {σ : Type} (document : Json) (codec : Codec σ) (spec : σ) : Prop :=
  ∃ part, codec.decode part = .ok spec ∧ ∀ {numbers levels}, 0 < levels →
    document.fits numbers (levels + 1) → part.fits numbers levels

/-- The empty object stands for an absent spec. -/
theorem Json.holdsSpec_of_shown {σ τ : Type} {document : Json} {codec : Codec τ} {absent spec : τ}
    {name : String} {get : σ → τ} {given : List (String × Json)}
    (hblank : codec.decode (.obj []) = .ok absent)
    (hbuild : (Fields.shown name codec absent get).build given = .ok spec)
    (hgiven : ∀ {numbers levels}, document.fits numbers levels →
      0 < levels ∧ ∀ member ∈ given, member.2.fits numbers (levels - 1)) :
    document.HoldsSpec codec spec := by
  obtain ⟨part, hdecode, hpart⟩ := decoded_of_default hblank hbuild
  refine ⟨part, hdecode, fun hlevels hfits => ?_⟩
  rcases hpart with rfl | ⟨key, hmember⟩
  · exact fits_obj.mpr ⟨hlevels, .nil, by simp⟩
  · exact (hgiven hfits).2 _ hmember

/-- A spec that a document holds is read one level below it. -/
theorem Json.HoldsSpec.readsIn {σ : Type} {document : Json} {codec : Codec σ} {spec : σ}
    {numbers : Numbers} {levels : Nat} (h : document.HoldsSpec codec spec) (hlevels : 0 < levels)
    (hfits : document.fits numbers (levels + 1)) : codec.ReadsIn numbers levels spec :=
  let ⟨part, hdecode, hpart⟩ := h
  ⟨part, hpart hlevels hfits, hdecode⟩

namespace AnyPolicy

variable {document : Json}

/-- A document names the version of the policy it holds, and is read by the codec of that. -/
theorem ofJson_eq_ok_iff {source : AnyPolicy} :
    ofJson document = .ok source ↔
      document.member? "apiVersion" = some (.str source.version.name) ∧
        match source with
        | .hub policy => Hub.Policy.codec.decode document = .ok policy
        | .spoke policy => Spoke.Policy.codec.decode document = .ok policy := by
  constructor
  · intro h
    rw [ofJson] at h
    split at h
    case h_1 given hgiven =>
      split at h
      case h_1 version hversion =>
        have hname : given = version.name := by simpa [eq_comm] using List.find?_some hversion
        have hmember : document.member? "apiVersion" = some (.str version.name) := by
          obtain ⟨item, hitem, htext⟩ := Option.bind_eq_some_iff.mp hgiven
          rw [hitem, Json.str?_eq_some_iff.mp htext, hname]
        cases version with
        | v1 =>
            obtain ⟨policy, hdecode, rfl⟩ :=
              Except.map_eq_ok_iff.mp (Except.mapError_eq_ok_iff.mp h)
            exact ⟨hmember, hdecode⟩
        | v2 =>
            obtain ⟨policy, hdecode, rfl⟩ :=
              Except.map_eq_ok_iff.mp (Except.mapError_eq_ok_iff.mp h)
            exact ⟨hmember, hdecode⟩
      case h_2 => cases h
    case h_2 => cases h
  · rintro ⟨hmember, hdecode⟩
    cases source with
    | hub policy =>
        simp [ofJson, hmember, Json.str?, version, ApiVersion.ofName?_name, hdecode, Except.map,
          Except.mapError]
    | spoke policy =>
        simp [ofJson, hmember, Json.str?, version, ApiVersion.ofName?_name, hdecode, Except.map,
          Except.mapError]

theorem decode_of_ofJson {source : AnyPolicy} (h : ofJson document = .ok source) :
    match source with
    | .hub policy => Hub.Policy.codec.decode document = .ok policy
    | .spoke policy => Spoke.Policy.codec.decode document = .ok policy := by
  cases source <;> exact (ofJson_eq_ok_iff.mp h).2

theorem hub_holdsSpec {policy : Hub.Policy} (h : ofJson document = .ok (.hub policy)) :
    document.HoldsSpec Hub.Spec.codec policy.spec := by
  obtain ⟨given, hbuild, hgiven⟩ := builds_of_record (decode_of_ofJson h)
  simp only [Hub.Policy.fields, builds_seq, builds_map] at hbuild
  obtain ⟨_, -, _, -, spec, hspec, _, -, rfl⟩ := hbuild
  exact Json.holdsSpec_of_shown rfl hspec hgiven

theorem spoke_holdsSpec {policy : Spoke.Policy} (h : ofJson document = .ok (.spoke policy)) :
    document.HoldsSpec Spoke.Spec.codec policy.spec := by
  obtain ⟨given, hbuild, hgiven⟩ := builds_of_record (decode_of_ofJson h)
  simp only [Spoke.Policy.fields, builds_seq, builds_map] at hbuild
  obtain ⟨_, -, _, -, spec, hspec, _, -, rfl⟩ := hbuild
  exact Json.holdsSpec_of_shown rfl hspec hgiven

/-- The spec of a policy document stands one level below it. -/
theorem hub_readsIn {policy : Hub.Policy} {numbers : Json.Numbers} {levels : Nat}
    (hfits : document.fits numbers (levels + 2)) (h : ofJson document = .ok (.hub policy)) :
    Hub.Spec.codec.ReadsIn numbers (levels + 1) policy.spec :=
  (hub_holdsSpec h).readsIn (by omega) hfits

theorem spoke_readsIn {policy : Spoke.Policy} {numbers : Json.Numbers} {levels : Nat}
    (hfits : document.fits numbers (levels + 2)) (h : ofJson document = .ok (.spoke policy)) :
    Spoke.Spec.codec.ReadsIn numbers (levels + 1) policy.spec :=
  (spoke_holdsSpec h).readsIn (by omega) hfits

end AnyPolicy

end HubSpoke
