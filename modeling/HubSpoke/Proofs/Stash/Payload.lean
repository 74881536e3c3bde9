import HubSpoke.Proofs.Hub.Codecs
import HubSpoke.Proofs.Json.Reader
import HubSpoke.Proofs.Record.Spelled
import HubSpoke.Proofs.Spoke.Codecs
import HubSpoke.Stash.Payload

/-!
# Payloads read back

A payload made of a decoded spec holds that spec for its own version, but for floats, and nothing
for the other version.  Putting a payload into metadata and taking it out leaves all else alone.
-/

namespace HubSpoke

/-- A version whose specs are read back from what they are rendered as. -/
class LawfulSpec (σ : Type) [VersionedSpec σ] [HoldsFloats σ] : Prop where
  lawful : (VersionedSpec.codec : Codec σ).Lawful mapFloats 13

instance : LawfulSpec Hub.Spec := ⟨Hub.Spec.codec_lawful⟩

instance : LawfulSpec Spoke.Spec := ⟨Spoke.Spec.codec_lawful⟩

/-! ## The text of a payload -/

namespace Stashed

variable {σ τ : Type} [VersionedSpec σ] [VersionedSpec τ]

/-- The members of a payload that holds the given spec, in the order of their keys. -/
def members (kind : PolicyKind) (stashed : Stashed σ) (spec : Json) : List (String × Json) :=
  [("apiVersion", .str (VersionedSpec.version σ).name), ("kind", .str kind.name)] ++
    (stashed.sourceAnnotation.toList.map fun carried => ("sourceAnnotation", .str carried)) ++
    [("spec", spec)]

variable {kind : PolicyKind} {stashed : Stashed σ} {spec : Json}

theorem toJson_eq :
    stashed.toJson kind =
      .obj (stashed.members kind (VersionedSpec.codec.encode stashed.spec)) := by
  obtain ⟨spec, sourceAnnotation⟩ := stashed
  cases sourceAnnotation <;> rfl

theorem mapFloats_members (change : Binary64 → Json) :
    Json.mapFloats change (.obj (stashed.members kind spec)) =
      .obj (stashed.members kind (spec.mapFloats change)) := by
  obtain ⟨_, sourceAnnotation⟩ := stashed
  cases sourceAnnotation <;> simp [members]

theorem fits_members {levels : Nat} (h : spec.fits .any levels) :
    (Json.obj (stashed.members kind spec)).fits .any (levels + 1) := by
  obtain ⟨_, sourceAnnotation⟩ := stashed
  rw [Json.fits_obj]
  cases sourceAnnotation with
  | none =>
      refine ⟨by omega, ?_, by simpa [members, Json.fits] using h⟩
      change List.Pairwise (· < ·) ["apiVersion", "kind", "spec"]
      decide
  | some carried =>
      refine ⟨by omega, ?_, by simpa [members, Json.fits] using h⟩
      change List.Pairwise (· < ·) ["apiVersion", "kind", "sourceAnnotation", "spec"]
      decide

/-- A payload made for the version holds what it was made of. -/
theorem ofJson_members {value : σ} (h : (VersionedSpec.codec : Codec σ).decode spec = .ok value) :
    ofJson (.obj (stashed.members kind spec)) = .ok (some { stashed with spec := value }) := by
  obtain ⟨_, sourceAnnotation⟩ := stashed
  cases sourceAnnotation <;>
    simp [ofJson, members, Json.member?, Json.str?, List.lookup_cons, h, Except.mapError, bind,
      Except.bind, pure, Except.pure]

/-- A payload made for another version holds nothing. -/
theorem ofJson_members_other
    (hother : (VersionedSpec.version σ).name ≠ (VersionedSpec.version τ).name) :
    (ofJson (.obj (stashed.members kind spec)) : Except PayloadFault (Option (Stashed τ))) =
      .ok none := by
  simp [ofJson, members, Json.member?, Json.str?, hother, pure, Except.pure]

/-- What the text of a payload is read as. -/
theorem parse?_encode [Json.FloatReading]
    (hfits : (VersionedSpec.codec.encode stashed.spec).fits .any 126) :
    Json.parse? (stashed.encode kind) = some (.obj (stashed.members kind
      ((VersionedSpec.codec.encode stashed.spec).mapFloats Binary64.respelled))) := by
  rw [encode, toJson_eq, Json.parse?_canonical (fits_members hfits), mapFloats_members]

/-- The spec of a payload was decoded from a member, which stands one level below it. -/
theorem readsIn_of_ofJson {numbers : Json.Numbers} {levels : Nat} {payload : Json}
    {saved : Stashed σ}
    (hfits : payload.fits numbers levels) (h : ofJson payload = .ok (some saved)) :
    (VersionedSpec.codec : Codec σ).ReadsIn numbers (levels - 1) saved.spec := by
  unfold ofJson at h
  cases payload with
  | obj members =>
      dsimp only at h
      split at h
      case h_1 =>
        split at h
        · cases h
        · split at h
          case h_3 => cases h
          -- whatever was carried, the spec is the last part to be read
          all_goals
            obtain ⟨carried, -, h⟩ := Except.bind_eq_ok_iff.mp h
            split at h
            case h_1 spec hspec =>
              obtain ⟨value, hvalue, heq⟩ := Except.bind_eq_ok_iff.mp h
              obtain rfl := Option.some.inj (Except.ok.inj heq)
              have hmember := (Json.fits_obj.mp hfits).2.2 _ (KeyMap.mem_of_lookup hspec)
              exact ⟨spec, hmember, Except.mapError_eq_ok_iff.mp hvalue⟩
            case h_2 => cases h
      case h_2 => cases h
  | _ => cases h
variable [HoldsFloats σ] [LawfulSpec σ] {document : Json}

/-- A payload made of a decoded spec holds it, but for floats. -/
theorem decode_encode [Json.FloatReading]
    (hdecode : (VersionedSpec.codec : Codec σ).decode document = .ok stashed.spec)
    (hfits : document.fits .any 126) :
    decode (stashed.encode kind) =
      .ok (some { stashed with spec := mapFloats Binary64.respelled stashed.spec }) := by
  rw [decode, parse?_encode (LawfulSpec.lawful.fits hfits hdecode)]
  exact ofJson_members (LawfulSpec.lawful.redecode Binary64.numeric_respelled hdecode)

/-- It holds nothing for another version. -/
theorem decode_encode_other [Json.FloatReading]
    (hdecode : (VersionedSpec.codec : Codec σ).decode document = .ok stashed.spec)
    (hfits : document.fits .any 126)
    (hother : (VersionedSpec.version σ).name ≠ (VersionedSpec.version τ).name) :
    (decode (stashed.encode kind) : Except PayloadFault (Option (Stashed τ))) = .ok none := by
  rw [decode, parse?_encode (LawfulSpec.lawful.fits hfits hdecode)]
  exact ofJson_members_other hother

end Stashed

/-! ## Payloads in metadata -/

namespace Metadata

variable {σ : Type} [VersionedSpec σ] {metadata : Metadata}

/-- The metadata with the reserved annotation set. -/
def withPayload (metadata : Metadata) (payload : String) : Metadata :=
  { metadata with annotations := metadata.annotations.insert Stashed.annotation payload }

@[simp] theorem payload?_withPayload (metadata : Metadata) (payload : String) :
    (metadata.withPayload payload).payload? = some payload := by
  simp [payload?, withPayload, KeyMap.find?_insert]

@[simp] theorem payload?_withoutPayload (metadata : Metadata) :
    metadata.withoutPayload.payload? = none := by
  simp [payload?, withoutPayload, KeyMap.find?_erase]

@[simp] theorem withoutPayload_withPayload (metadata : Metadata) (payload : String) :
    (metadata.withPayload payload).withoutPayload = metadata.withoutPayload :=
  congrArg (fun annotations => ({ metadata with annotations } : Metadata))
    (KeyMap.erase_insert ..)

@[simp] theorem withoutPayload_withoutPayload (metadata : Metadata) :
    metadata.withoutPayload.withoutPayload = metadata.withoutPayload :=
  congrArg (fun annotations => ({ metadata with annotations } : Metadata)) (KeyMap.erase_erase ..)

theorem withoutPayload_eq_self (h : metadata.payload? = none) :
    metadata.withoutPayload = metadata :=
  congrArg (fun annotations => ({ metadata with annotations } : Metadata))
    (KeyMap.erase_of_find?_eq_none h)

/-- The reserved annotation put back. -/
theorem withPayload_withoutPayload {payload : String} (h : metadata.payload? = some payload) :
    metadata.withoutPayload.withPayload payload = metadata :=
  congrArg (fun annotations => ({ metadata with annotations } : Metadata)) (KeyMap.insert_erase h)

theorem stashed_of_payload?_eq_none [Json.FloatReading] (h : metadata.payload? = none) :
    (metadata.stashed : Except PayloadFault (Option (Stashed σ))) = .ok none := by
  rw [stashed, h]

/-- The reserved annotation, if it is JSON at all, holds no floats. -/
def wholePayload [Json.FloatReading] (metadata : Metadata) : Bool :=
  (metadata.payload?.bind Json.parse?).all fun payload => payload.fits .whole Json.maxDepth

/-- A spec found in a payload without floats is read from a document without floats. -/
theorem readsIn_of_stashed [Json.FloatReading] {saved : Stashed σ} (hwhole : metadata.wholePayload)
    (h : metadata.stashed = .ok (some saved)) :
    (VersionedSpec.codec : Codec σ).ReadsIn .whole 126 saved.spec := by
  unfold stashed at h
  split at h
  case h_1 payload hpayload =>
    unfold Stashed.decode at h
    split at h
    case h_1 document hdocument =>
      have hfits : document.fits .whole Json.maxDepth := by
        simpa [wholePayload, hpayload, hdocument] using hwhole
      exact Stashed.readsIn_of_ofJson hfits h
    case h_2 => cases h
  case h_2 => cases h

theorem stash_eq (metadata : Metadata) (kind : PolicyKind) (carried : Stashed σ) :
    metadata.stash kind carried = metadata.withPayload (carried.encode kind) := rfl

/-- What was stashed of a decoded spec is found again, but for floats. -/
theorem stashed_stash [Json.FloatReading] [HoldsFloats σ] [LawfulSpec σ] {document : Json}
    {carried : Stashed σ}
    (hdecode : (VersionedSpec.codec : Codec σ).decode document = .ok carried.spec)
    (hfits : document.fits .any 126) (kind : PolicyKind) :
    (metadata.stash kind carried).stashed =
      .ok (some { carried with spec := mapFloats Binary64.respelled carried.spec }) := by
  rw [stash_eq, stashed, payload?_withPayload]
  exact Stashed.decode_encode hdecode hfits

end Metadata

end HubSpoke
