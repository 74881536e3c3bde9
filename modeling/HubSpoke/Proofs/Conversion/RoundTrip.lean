import HubSpoke.Proofs.Conversion.Precedence
import HubSpoke.Proofs.Mapping.Total
import HubSpoke.Proofs.Stash.Payload
import HubSpoke.Proofs.Stash.Restore

/-!
# There and back

A hub comes back from the spoke, whatever its annotation held: either mapping back gives the hub
again, or the hub was stashed and is what the untouched spoke converts to.

A spoke without an annotation comes back from the hub.  A spoke that carries the stash of a hub need
not: its spec comes back exactly where the hub it was stored as keeps the routed values of its rules
(`Spoke.Spec.KeepsRouted`).
-/

namespace HubSpoke

open Codec.Lawful (mapFloats_eq_self)

/-! ## What converting depends on -/

namespace Hub.Policy

variable {policy : Policy} {restored : Option (Stashed Spoke.Spec)} {fresh : Spoke.Spec}

/-- A hub that mapping gives back is not stashed. -/
theorem convert_of_reproduced [Json.FloatReading] {plain : Converted Policy}
    (hrestored : policy.metadata.stashed = .ok restored) (hfresh : policy.spec.toSpoke = .ok fresh)
    (hplain : (policy.unstashed (policy.laidOver restored fresh)).mapToHub
      policy.metadata.withoutPayload none = .ok plain)
    (hpolicy : plain.policy = policy) :
    policy.convert = .ok {
      policy := policy.unstashed (policy.laidOver restored fresh)
      restored := restored.isSome
      stashed := false } := by
  have hsame : sameData plain.policy policy = true := by simp [hpolicy, sameData]
  refine convert_eq_ok_iff.mpr ⟨restored, fresh, plain, hrestored, hfresh, hplain, ?_⟩
  simp [hsame]

end Hub.Policy

namespace Spoke.Policy

variable {policy : Policy}

/-- A spoke that reads back maps to the hub. -/
theorem mapToHub_none (hreads : policy.spec.ReadsBack) (metadata : Metadata) :
    policy.mapToHub metadata none = .ok {
      policy := {
        kind := policy.kind
        metadata :=
          if sameData (policy.spec.rerouted (Routed.ofSpoke policy.spec)) policy.spec then metadata
          else metadata.stash policy.kind { spec := policy.spec }
        spec := policy.spec.toHub
        status := policy.status }
      restored := false
      stashed :=
        !sameData (policy.spec.rerouted (Routed.ofSpoke policy.spec)) policy.spec } :=
  mapToHub_eq_ok_iff.mpr ⟨_, _, rfl, hreads.toSpoke_toHub, rfl⟩

/-- A stashed hub carries the annotation that was stashed with it. -/
theorem payload?_stashedHub (saved : Stashed Hub.Spec) :
    (policy.stashedHub saved).metadata.payload? = saved.sourceAnnotation := by
  obtain ⟨_, sourceAnnotation⟩ := saved
  cases sourceAnnotation with
  | none => exact Metadata.payload?_withoutPayload _
  | some carried => exact Metadata.payload?_withPayload _ carried

/-- A spoke maps when a stashed spec can be laid over what it maps to. -/
theorem exists_mapToHub {saved : Option Hub.Spec} {spec : Hub.Spec} {metadata : Metadata}
    (h : policy.laidOver saved = .ok spec) :
    ∃ up, policy.mapToHub metadata saved = .ok up ∧ up.policy.spec = spec := by
  have hmaps : ∃ again, spec.toSpoke = .ok again := by
    cases saved with
    | none =>
        obtain rfl := Except.ok.inj h
        exact policy.spec.exists_toSpoke_toHub
    | some restored => exact Hub.Spec.exists_toSpoke_overlay h
  obtain ⟨again, hagain⟩ := hmaps
  exact ⟨_, mapToHub_eq_ok_iff.mpr ⟨spec, again, h, hagain, rfl⟩, rfl⟩

end Spoke.Policy

namespace Hub.Policy

variable {policy : Policy} {restored : Option (Stashed Spoke.Spec)} {fresh : Spoke.Spec}

/-- A hub converts when its stash is readable and its spec maps. -/
theorem exists_convert [Json.FloatReading] (hrestored : policy.metadata.stashed = .ok restored)
    (hfresh : policy.spec.toSpoke = .ok fresh) :
    ∃ result, policy.convert = .ok result ∧
      result.policy.spec = policy.laidOver restored fresh := by
  obtain ⟨plain, hplain, -⟩ := @Spoke.Policy.exists_mapToHub
    (policy.unstashed (policy.laidOver restored fresh)) none _ policy.metadata.withoutPayload rfl
  have hconvert := convert_eq_ok_iff.mpr ⟨restored, fresh, plain, hrestored, hfresh, hplain, rfl⟩
  obtain ⟨_, _, hrestored', hfresh', hspec⟩ := exists_laidOver hconvert
  obtain rfl := Except.ok.inj (hrestored.symm.trans hrestored')
  obtain rfl := Except.ok.inj (hfresh.symm.trans hfresh')
  exact ⟨_, hconvert, hspec⟩

end Hub.Policy

namespace Spoke.Policy

variable {policy : Policy}

/-- A spoke without a stash converts. -/
theorem exists_convert_unreserved [Json.FloatReading]
    (hreserved : policy.metadata.payload? = none) :
    ∃ up, policy.convert = .ok up := by
  obtain ⟨up, hmap, -⟩ := @exists_mapToHub policy none _ policy.metadata.withoutPayload rfl
  exact ⟨up, convert_eq_ok_iff.mpr
    ⟨none, Metadata.stashed_of_payload?_eq_none hreserved, hmap⟩⟩

/-- A spoke converts when the hub in its stash does: that hub is given back while it converts to the
spoke, and is laid over what the spoke maps to once it has been edited. -/
theorem exists_convert_stashed [Json.FloatReading] {saved : Stashed Hub.Spec}
    {restored : Option (Stashed Spec)} {fresh : Spec}
    (hstashed : policy.metadata.stashed = .ok (some saved))
    (hrestored : (policy.stashedHub saved).metadata.stashed = .ok restored)
    (hfresh : saved.spec.toSpoke = .ok fresh) :
    ∃ converted up, (policy.stashedHub saved).convert = .ok converted ∧ policy.convert = .ok up ∧
      if sameData converted.policy policy then up.policy = policy.stashedHub saved
      else policy.spec.toHub.overlay saved.spec policy.spec = .ok up.policy.spec := by
  obtain ⟨converted, hconverted, -⟩ := Hub.Policy.exists_convert hrestored hfresh
  by_cases hsame : sameData converted.policy policy
  · exact ⟨converted, _, hconverted, convert_eq_ok_iff.mpr
      ⟨some saved, hstashed, converted, hconverted, (if_pos hsame).mpr rfl⟩,
      (if_pos hsame).mpr rfl⟩
  · obtain ⟨back, hback⟩ := Hub.Spec.exists_overlay hfresh policy.spec.toHub policy.spec
    obtain ⟨up, hup, rfl⟩ := @exists_mapToHub policy (some saved.spec) back
      policy.metadata.withoutPayload hback
    exact ⟨converted, up, hconverted, convert_eq_ok_iff.mpr
      ⟨some saved, hstashed, converted, hconverted, (if_neg hsame).mpr hup⟩,
      (if_neg hsame).mpr hback⟩

end Spoke.Policy

/-! ## What a spoke leaves in the stash -/

namespace Spoke.Policy

variable {policy : Policy} {up : Converted Hub.Policy} {saved : Option Hub.Spec}

/-- What is found in the stash of the hub a spoke is stored as, if its spec maps back to
`again`. -/
def residue [Json.FloatReading] (policy : Policy) (again : Spec) : Option (Stashed Spec) :=
  if sameData again policy.spec then none
  else some { spec := mapFloats Binary64.respelled policy.spec }

theorem metadata_of_mapToHub
    (hmap : policy.mapToHub policy.metadata.withoutPayload saved = .ok up) :
    up.policy.metadata.withoutPayload = policy.metadata.withoutPayload := by
  obtain ⟨spec, again, -, -, rfl⟩ := mapToHub_eq_ok_iff.mp hmap
  cases sameData again policy.spec <;> simp [Metadata.stash_eq]

theorem stashed_of_mapToHub [Json.FloatReading] {document : Json} {again : Spec}
    (hmap : policy.mapToHub policy.metadata.withoutPayload saved = .ok up)
    (hagain : up.policy.spec.toSpoke = .ok again)
    (hdecode : Spec.codec.decode document = .ok policy.spec) (hfits : document.fits .any 126) :
    up.policy.metadata.stashed = .ok (policy.residue again) := by
  obtain ⟨spec, again', -, hagain', rfl⟩ := mapToHub_eq_ok_iff.mp hmap
  obtain rfl := Except.ok.inj (hagain.symm.trans hagain')
  cases hsame : sameData again policy.spec with
  | true => simp [residue, hsame, Metadata.stashed_of_payload?_eq_none]
  | false =>
      rw [residue, hsame]
      exact Metadata.stashed_stash hdecode hfits policy.kind

/-- What a spoke converts to converts back, whatever floats its spec holds. -/
theorem exists_convert_result [Json.FloatReading]
    (hreads : Spec.codec.ReadsIn .any 126 policy.spec) (h : policy.convert = .ok up) :
    ∃ back, up.policy.convert = .ok back := by
  obtain ⟨part, hfits, hdecode⟩ := hreads
  rcases convert_cases h with ⟨saved, hmap⟩ | ⟨converted, hconverted, -⟩
  · -- the hub maps, or it would not have been compared with the spoke
    obtain ⟨spec, again, -, hagain, hup⟩ := mapToHub_eq_ok_iff.mp hmap
    have hfresh : up.policy.spec.toSpoke = .ok again := by rw [hup]; exact hagain
    have hstashed := stashed_of_mapToHub hmap hfresh hdecode hfits
    obtain ⟨back, hback, -⟩ := Hub.Policy.exists_convert hstashed hfresh
    exact ⟨back, hback⟩
  · exact ⟨converted, hconverted⟩

/-- The stash brings back the spec just where the hub keeps its routed values. -/
theorem laidOver_residue_eq_iff [Json.FloatReading] (hub : Hub.Policy) :
    hub.laidOver (policy.residue (policy.spec.rerouted (Routed.ofHub hub.spec)))
        (policy.spec.rerouted (Routed.ofHub hub.spec)) = policy.spec ↔
      policy.spec.KeepsRouted (Routed.ofHub hub.spec) := by
  rw [residue]
  split
  case isTrue hsame =>
    have hself := Spec.rerouted_eq_of_sameData hsame
    exact iff_of_true hself (Spec.keepsRouted_of_rerouted_eq hself)
  case isFalse => exact Spec.overlay_mapFloats_eq_iff _ _

/-- The spoke comes back where its spec does. -/
theorem convert_back [Json.FloatReading] {restored : Option (Stashed Spec)} {fresh : Spec}
    (hmap : policy.mapToHub policy.metadata.withoutPayload none = .ok up)
    (hmetadata : policy.metadata.withoutPayload = policy.metadata)
    (hrestored : up.policy.metadata.stashed = .ok restored)
    (hfresh : up.policy.spec.toSpoke = .ok fresh)
    (hspec : up.policy.laidOver restored fresh = policy.spec) :
    up.policy.convert = .ok { policy, restored := restored.isSome, stashed := false } := by
  have hdetached := metadata_of_mapToHub hmap
  have hunstashed : up.policy.unstashed (up.policy.laidOver restored fresh) = policy := by
    rw [Hub.Policy.unstashed, hspec, hdetached, hmetadata]
    obtain ⟨_, _, -, -, rfl⟩ := mapToHub_eq_ok_iff.mp hmap
    rfl
  have hconvert := Hub.Policy.convert_of_reproduced hrestored hfresh
    (by rw [hunstashed, hdetached]; exact hmap) rfl
  rwa [hunstashed] at hconvert

end Spoke.Policy

/-! ## From the spoke and back -/

/-- A spoke that carries no reserved annotation converts to the hub and back to itself.  The second
conversion stashes nothing, and it restores just where the first one stashed. -/
theorem spoke_round_trip [Json.FloatReading] {document : Json} {policy : Spoke.Policy}
    (hfits : document.fits .any Json.maxDepth)
    (hdocument : AnyPolicy.ofJson document = .ok (.spoke policy))
    (hreserved : policy.metadata.payload? = none) :
    ∃ up down, policy.convert = .ok up ∧ up.policy.convert = .ok down ∧
      down.policy = policy ∧ down.stashed = false ∧
      (down.restored = true ↔ up.stashed = true) := by
  obtain ⟨part, hdecode, hpart⟩ := AnyPolicy.spoke_holdsSpec hdocument
  have hreads := Spoke.Spec.readsBack hdecode
  have hmetadata := Metadata.withoutPayload_eq_self hreserved
  have hmap := Spoke.Policy.mapToHub_none hreads policy.metadata.withoutPayload
  have hconvert := Spoke.Policy.convert_eq_ok_iff.mpr
    ⟨none, Metadata.stashed_of_payload?_eq_none hreserved, hmap⟩
  have hfresh := hreads.toSpoke_toHub
  have hstashed := Spoke.Policy.stashed_of_mapToHub hmap hfresh hdecode (hpart (by decide) hfits)
  have hback := Spoke.Policy.convert_back hmap hmetadata hstashed hfresh
    ((Spoke.Policy.laidOver_residue_eq_iff _).mpr (.inl rfl))
  refine ⟨_, _, hconvert, hback, rfl, rfl, ?_⟩
  dsimp only [Spoke.Policy.residue]
  split <;> simp_all

/-- A spoke whose rules have failure actions of their own. -/
def Json.perRuleSpoke : Json :=
  .policyDocument "kyverno.io/v2" [] [("rules", .arr [
    .obj [("name", .str "first"),
      ("validate", .obj [("validationFailureAction", .str "Enforce")])],
    .obj [("name", .str "second"),
      ("validate", .obj [("validationFailureAction", .str "Audit")])]])]

theorem spoke_round_trip_per_rule :
    ∃ policy up down, AnyPolicy.ofJson Json.perRuleSpoke = .ok (.spoke policy) ∧
      policy.convert = .ok up ∧ up.stashed = true ∧ up.policy.convert = .ok down ∧
      down.policy = policy ∧ down.restored = true := by
  have hrun : Json.perRuleSpoke.spokeConverts fun policy up =>
      policy.metadata.payload?.isNone && up.stashed := by decide +kernel
  obtain ⟨policy, up, hdocument, hup, hasked⟩ := Json.exists_of_spokeConverts hrun
  obtain ⟨hreserved, hstashed⟩ := Bool.and_eq_true_iff.mp hasked
  obtain ⟨up', down, hup', hdown, hback, -, hrestored⟩ := spoke_round_trip
    (by decide +kernel) hdocument (Option.isNone_iff_eq_none.mp hreserved)
  obtain rfl := Except.ok.inj (hup.symm.trans hup')
  exact ⟨policy, up, down, hdocument, hup, hstashed, hdown, hback, hrestored.mpr hstashed⟩

/-- The hub spec that a whole spoke spec is stored as maps back to what is shared of the spoke spec,
with the routed values of the hub. -/
theorem Spoke.Policy.toSpoke_of_convert_whole [Json.FloatReading] {document : Json}
    {policy : Spoke.Policy} {up : Converted Hub.Policy} {levels : Nat}
    (hfits : document.fits .whole levels)
    (hdecode : Spoke.Spec.codec.decode document = .ok policy.spec)
    (hconvert : policy.convert = .ok up) :
    up.policy.spec.toSpoke = .ok (policy.spec.rerouted (Routed.ofHub up.policy.spec)) := by
  obtain ⟨mapped, hmapped, hsame⟩ := toSpoke_of_convert hdecode hconvert
  have hwhole := mapFloats_eq_self Spoke.Spec.codec_lawful hfits hdecode Json.numeric_zero
  rw [← Spoke.Spec.rerouted_congr (Spoke.Spec.eq_stripped hwhole hsame),
    Hub.Spec.rerouted_toSpoke hmapped, hmapped]

/-- Whatever a hub's stash holds, the values of the hub are kept. -/
theorem Hub.Policy.keepsRouted_laidOver {policy : Hub.Policy} {fresh : Spoke.Spec}
    (hfresh : policy.spec.toSpoke = .ok fresh) (restored : Option (Stashed Spoke.Spec)) :
    (policy.laidOver restored fresh).KeepsRouted (Routed.ofHub policy.spec) := by
  have hself := Hub.Spec.rerouted_toSpoke hfresh
  cases restored with
  | none => exact Spoke.Spec.keepsRouted_of_rerouted_eq hself
  | some saved => exact Spoke.Spec.keepsRouted_overlay hself saved.spec

/-- A spoke that converts to the hub converts back, and its spec comes back exactly where the hub it
was stored as keeps the routed values of its rules. -/
theorem spoke_spec_round_trip [Json.FloatReading] {document : Json} {policy : Spoke.Policy}
    {up : Converted Hub.Policy} (hfits : document.fits .whole Json.maxDepth)
    (hdocument : AnyPolicy.ofJson document = .ok (.spoke policy))
    (hconvert : policy.convert = .ok up) :
    ∃ down, up.policy.convert = .ok down ∧
      (down.policy.spec = policy.spec ↔
        policy.spec.KeepsRouted (Routed.ofHub up.policy.spec)) := by
  obtain ⟨part, hdecode, hpart⟩ := AnyPolicy.spoke_holdsSpec hdocument
  have hpartFits : part.fits .whole 126 := hpart (by decide) hfits
  have hfresh := Spoke.Policy.toSpoke_of_convert_whole hpartFits hdecode hconvert
  rcases Spoke.Policy.convert_cases hconvert with ⟨saved, hmap⟩ | ⟨converted, hconverted, hsame⟩
  · -- the hub carries the spoke, and what its rules keep decides whether it is laid over
    have hstashed := Spoke.Policy.stashed_of_mapToHub hmap hfresh hdecode
      (Json.fits_of_whole hpartFits)
    obtain ⟨down, hdown, hspec⟩ := Hub.Policy.exists_convert hstashed hfresh
    refine ⟨down, hdown, ?_⟩
    rw [hspec, Spoke.Policy.laidOver_residue_eq_iff]
  · -- the spoke has not been edited, so the stashed hub converts to it
    obtain ⟨restored, fresh, -, hfresh, hspec⟩ := Hub.Policy.exists_laidOver hconverted
    have hself : converted.policy.spec = policy.spec :=
      eq_of_unsigned (mapFloats_eq_self Spoke.Spec.codec_lawful hpartFits hdecode
        Json.numeric_zero) (congrArg Spoke.Policy.spec (of_decide_eq_true hsame))
    refine ⟨converted, hconverted, iff_of_true hself ?_⟩
    rw [← hself, hspec]
    exact Hub.Policy.keepsRouted_laidOver hfresh restored

/-- A spoke that mutates, with the stash of a hub that validates and has a flag set. -/
def Json.editedSpoke (flag : String) : Json :=
  .policyDocument "kyverno.io/v2"
    [(Stashed.annotation, .str ("\x7b\"apiVersion\":\"kyverno.io/v1\",\"spec\":\x7b\"" ++ flag ++
      "\":true,\"rules\":[\x7b\"name\":\"sample\",\"validate\":\x7b\x7d\x7d]\x7d\x7d"))]
    [("rules", .arr [.obj [("mutate", .obj []), ("name", .str "sample")]])]

theorem spoke_spec_round_trip_edited :
    ∃ policy up down, AnyPolicy.ofJson (Json.editedSpoke "schemaValidation") = .ok (.spoke policy) ∧
      policy.convert = .ok up ∧ up.restored = true ∧ up.policy.convert = .ok down ∧
      down.policy.spec = policy.spec := by
  have hrun : (Json.editedSpoke "schemaValidation").spokeConverts fun policy up =>
      up.restored && decide (policy.spec.KeepsRouted (Routed.ofHub up.policy.spec)) := by
    decide +kernel
  obtain ⟨policy, up, hdocument, hup, hasked⟩ := Json.exists_of_spokeConverts hrun
  obtain ⟨hrestored, hkeeps⟩ := Bool.and_eq_true_iff.mp hasked
  obtain ⟨down, hdown, hspec⟩ := spoke_spec_round_trip (by decide +kernel) hdocument hup
  exact ⟨policy, up, down, hdocument, hup, hrestored, hdown, hspec.mpr (of_decide_eq_true hkeeps)⟩

/-- The flag of a hub that only validates is written into a hub that mutates, because no rule of
either carries it; read back, the rule that mutates does. -/
theorem spoke_spec_changes :
    ∃ policy up down, (Json.editedSpoke "mutateExistingOnPolicyUpdate").fits .whole Json.maxDepth ∧
      AnyPolicy.ofJson (Json.editedSpoke "mutateExistingOnPolicyUpdate") = .ok (.spoke policy) ∧
      policy.convert = .ok up ∧ up.policy.convert = .ok down ∧
      policy.spec.rules.map Routed.ofRule = [{}] ∧
      down.policy.spec.rules.map Routed.ofRule = [{ mutateExisting := true }] ∧
      down.policy.spec ≠ policy.spec := by
  have hrun : (Json.editedSpoke "mutateExistingOnPolicyUpdate").spokeConverts fun policy up =>
      up.policy.convert.any fun down => decide (policy.spec.rules.map Routed.ofRule = [{}] ∧
        down.policy.spec.rules.map Routed.ofRule = [{ mutateExisting := true }]) := by
    decide +kernel
  obtain ⟨policy, up, hdocument, hup, hasked⟩ := Json.exists_of_spokeConverts hrun
  obtain ⟨down, hdown, hflags⟩ := Except.any_iff.mp hasked
  obtain ⟨hbefore, hafter⟩ := of_decide_eq_true hflags
  refine ⟨policy, up, down, by decide +kernel, hdocument, hup, hdown, hbefore, hafter, ?_⟩
  intro hsame
  rw [hsame, hbefore] at hafter
  exact absurd hafter (by decide)

/-! ## From the hub and back -/

namespace Hub.Policy

variable {policy : Policy}

/-- The hub's stash holds its spec, but for floats, and its reserved annotation. -/
theorem stashed_stashedUnder [Json.FloatReading] {document : Json}
    (hdecode : Spec.codec.decode document = .ok policy.spec) (hfits : document.fits .any 126)
    (spec : Spoke.Spec) :
    (policy.stashedUnder spec).metadata.stashed = .ok (some (
      { spec := mapFloats Binary64.respelled policy.spec
        sourceAnnotation := policy.metadata.payload? } : Stashed Spec)) :=
  Metadata.stashed_stash hdecode hfits policy.kind

/-- The hub that a stash of it describes. -/
theorem stashedHub_stashedUnder (spec : Spoke.Spec) :
    (policy.stashedUnder spec).stashedHub
      { spec := policy.spec, sourceAnnotation := policy.metadata.payload? } = policy := by
  have hmetadata : (policy.stashedUnder spec).metadata.withoutPayload =
      policy.metadata.withoutPayload := by
    simp [stashedUnder, Metadata.stash_eq]
  rw [Spoke.Policy.stashedHub, hmetadata]
  cases hpayload : policy.metadata.payload? with
  | none =>
      exact congrArg (fun metadata => ({ policy with metadata } : Policy))
        (Metadata.withoutPayload_eq_self hpayload)
  | some carried =>
      exact congrArg (fun metadata => ({ policy with metadata } : Policy))
        (Metadata.withPayload_withoutPayload hpayload)

/-- A hub whose spec holds no floats is known from the data of what the plain spoke maps back to. -/
theorem eq_of_mapToHub {spec : Spoke.Spec} {plain : Converted Policy}
    (hwhole : mapFloats (fun _ => .int 0) policy.spec = policy.spec)
    (hmap : (policy.unstashed spec).mapToHub policy.metadata.withoutPayload none = .ok plain)
    (hsame : sameData plain.policy policy) : plain.policy = policy := by
  have hdata : unsigned plain.policy = unsigned policy := of_decide_eq_true hsame
  have hspec : plain.policy.spec = policy.spec :=
    eq_of_unsigned hwhole (congrArg Policy.spec hdata)
  have hannotations : plain.policy.metadata.annotations = policy.metadata.annotations :=
    congrArg (fun p => p.metadata.annotations) hdata
  obtain ⟨mapped, again, -, -, rfl⟩ := Spoke.Policy.mapToHub_eq_ok_iff.mp hmap
  dsimp only at hspec hannotations ⊢
  have hmetadata (metadata : Metadata) (h : metadata = { policy.metadata with
      annotations := metadata.annotations }) (heq : metadata.annotations =
        policy.metadata.annotations) : metadata = policy.metadata := by
    rw [h, heq]
  rw [hspec, hmetadata _ _ hannotations]
  · rfl
  · cases sameData again (policy.unstashed spec).spec <;> rfl

/-- A spoke without a stash is mapped. -/
theorem convert_unstashed [Json.FloatReading] {spec : Spoke.Spec} {plain : Converted Policy}
    (hmap : (policy.unstashed spec).mapToHub policy.metadata.withoutPayload none = .ok plain) :
    (policy.unstashed spec).convert = .ok plain := by
  refine Spoke.Policy.convert_eq_ok_iff.mpr ⟨none, ?_, ?_⟩
  · exact Metadata.stashed_of_payload?_eq_none (Metadata.payload?_withoutPayload _)
  · simpa [unstashed] using hmap

/-- A spoke that carries the hub it was converted from converts back to it. -/
theorem convert_stashed [Json.FloatReading] {result : Converted Spoke.Policy} {saved : Stashed Spec}
    (hconvert : policy.convert = .ok result)
    (hstashed : result.policy.metadata.stashed = .ok (some saved))
    (hformer : result.policy.stashedHub saved = policy) :
    result.policy.convert = .ok { policy, restored := true, stashed := false } := by
  refine Spoke.Policy.convert_eq_ok_iff.mpr ⟨some saved, hstashed, result, ?_, ?_⟩
  · rw [hformer, hconvert]
  · have hself : sameData result.policy result.policy := decide_eq_true rfl
    rw [if_pos hself, hformer]

end Hub.Policy

/-- A hub without floats converts without loss, or is stashed whole. -/
theorem Hub.Policy.lossless_or_stashed [Json.FloatReading] {policy : Hub.Policy}
    {result : Converted Spoke.Policy} (hreads : Spec.codec.ReadsIn .whole 126 policy.spec)
    (hconvert : policy.convert = .ok result) :
    (∃ plain : Converted Hub.Policy, plain.policy = policy ∧
      result.policy = policy.unstashed result.policy.spec ∧
      result.policy.mapToHub policy.metadata.withoutPayload none = .ok plain) ∨
    (∃ saved : Stashed Hub.Spec,
      saved = { spec := policy.spec, sourceAnnotation := policy.metadata.payload? } ∧
      result.policy.metadata.stashed = .ok (some saved) ∧
      result.policy.stashedHub saved = policy) := by
  obtain ⟨part, hfits, hdecode⟩ := hreads
  have hwhole {change : Binary64 → Json} (hchange : Json.Numeric change) :
      mapFloats change policy.spec = policy.spec :=
    mapFloats_eq_self Hub.Spec.codec_lawful hfits hdecode hchange
  obtain ⟨restored, fresh, plain, -, -, hplain, hresult⟩ := Hub.Policy.convert_eq_ok_iff.mp hconvert
  cases hsame : sameData plain.policy policy with
  | true =>
      -- the plain spoke carries no stash, and maps back as before
      rw [hsame] at hresult
      obtain rfl := hresult
      exact .inl ⟨plain, eq_of_mapToHub (hwhole Json.numeric_zero) hplain hsame, rfl, hplain⟩
  | false =>
      rw [hsame] at hresult
      have hpolicy : result.policy = policy.stashedUnder (policy.laidOver restored fresh) := by
        rw [hresult]
        rfl
      refine .inr ⟨_, rfl, ?_, ?_⟩
      · rw [hpolicy]
        have hfound := stashed_stashedUnder hdecode (Json.fits_of_whole hfits)
          (policy.laidOver restored fresh)
        rwa [hwhole Binary64.numeric_respelled] at hfound
      · rw [hpolicy]
        exact stashedHub_stashedUnder _

/-- A hub whose spec is read from a document without floats comes back from the spoke. -/
theorem Hub.Policy.exists_convert_back [Json.FloatReading] {policy : Hub.Policy}
    {result : Converted Spoke.Policy} (hreads : Spec.codec.ReadsIn .whole 126 policy.spec)
    (hconvert : policy.convert = .ok result) :
    ∃ back, result.policy.convert = .ok back ∧ back.policy = policy := by
  rcases lossless_or_stashed hreads hconvert with
    ⟨plain, hback, hunstashed, hplain⟩ | ⟨saved, -, hstashed, hformer⟩
  · refine ⟨plain, ?_, hback⟩
    rw [hunstashed] at hplain ⊢
    exact convert_unstashed hplain
  · -- the stashed hub converts to the spoke again, so it is what the spoke converts to
    exact ⟨_, convert_stashed hconvert hstashed hformer, rfl⟩

/-- A hub that converts to the spoke comes back from it, with its metadata, its reserved annotation
and its status. -/
theorem hub_round_trip [Json.FloatReading] {document : Json} {policy : Hub.Policy}
    {result : Converted Spoke.Policy} (hfits : document.fits .whole Json.maxDepth)
    (hdocument : AnyPolicy.ofJson document = .ok (.hub policy))
    (hconvert : policy.convert = .ok result) :
    ∃ back, result.policy.convert = .ok back ∧ back.policy = policy :=
  Hub.Policy.exists_convert_back (AnyPolicy.hub_readsIn hfits hdocument) hconvert

/-- A hub with a filter written inline, and with an annotation made for its own version. -/
def Json.inlineHub : Json :=
  .policyDocument "kyverno.io/v1"
    [(Stashed.annotation, .str "\x7b\"apiVersion\":\"kyverno.io/v1\"\x7d")]
    [("rules", .arr [.obj [
      ("match", .obj [("resources", .obj [("kinds", .arr [.str "Pod"])])]),
      ("name", .str "sample"), ("validate", .obj [])]])]

theorem hub_round_trip_inline :
    ∃ policy result back, AnyPolicy.ofJson Json.inlineHub = .ok (.hub policy) ∧
      policy.convert = .ok result ∧ result.stashed = true ∧ result.policy.convert = .ok back ∧
      back.policy = policy := by
  have hrun : Json.inlineHub.hubConverts fun _ result => result.stashed := by decide +kernel
  obtain ⟨policy, result, hdocument, hresult, hstashed⟩ := Json.exists_of_hubConverts hrun
  obtain ⟨back, hback, hpolicy⟩ := hub_round_trip (by decide +kernel) hdocument hresult
  exact ⟨policy, result, back, hdocument, hresult, hstashed, hback, hpolicy⟩

end HubSpoke
