import HubSpoke.Conversion
import HubSpoke.Proofs.Outcome

/-!
# What a conversion does

Converting runs through several steps that may fail.  The lemmas here say of each direction what it
did when it succeeded, so that no later proof opens the conversions.
-/

namespace HubSpoke

/-! ## From the hub -/

namespace Hub.Policy

/-- The spoke spec of a hub whose stash holds `restored`, given the freshly mapped one. -/
def laidOver (policy : Policy) (restored : Option (Stashed Spoke.Spec)) (fresh : Spoke.Spec) :
    Spoke.Spec :=
  match restored with
  | some saved => fresh.overlay saved.spec policy.spec
  | none => fresh

/-- The spoke with a spec, without a stash. -/
def unstashed (policy : Policy) (spec : Spoke.Spec) : Spoke.Policy :=
  { kind := policy.kind, metadata := policy.metadata.withoutPayload, spec, status := policy.status }

/-- The spoke with a spec, and with the hub stashed. -/
def stashedUnder (policy : Policy) (spec : Spoke.Spec) : Spoke.Policy :=
  let carried : Stashed Hub.Spec :=
    { spec := policy.spec, sourceAnnotation := policy.metadata.payload? }
  { policy.unstashed spec with
    metadata := policy.metadata.withoutPayload.stash policy.kind carried }

variable [Json.FloatReading] {policy : Policy} {result : Converted Spoke.Policy}

/-- The steps of converting a hub, errors included. -/
theorem convert_eq (policy : Policy) :
    policy.convert = (do
      let restored ← policy.metadata.stashed.mapError .payload
      let fresh ← policy.spec.toSpoke.mapError .conditions
      let spec := policy.laidOver restored fresh
      let plain ← (policy.unstashed spec).mapToHub policy.metadata.withoutPayload none
      return {
        policy := if sameData plain.policy policy then policy.unstashed spec
          else policy.stashedUnder spec
        restored := restored.isSome
        stashed := !sameData plain.policy policy }) := by
  rw [convert]
  refine bind_congr fun restored => bind_congr fun fresh => bind_congr fun plain => ?_
  cases sameData plain.policy policy <;> rfl

/-- The steps of converting a hub: its stash is read, its spec is mapped, and the outcome is stashed
unless mapping it back gives the hub again. -/
theorem convert_eq_ok_iff :
    policy.convert = .ok result ↔
      ∃ restored fresh plain, policy.metadata.stashed = .ok restored ∧
        policy.spec.toSpoke = .ok fresh ∧
        (policy.unstashed (policy.laidOver restored fresh)).mapToHub
          policy.metadata.withoutPayload none = .ok plain ∧
        result = {
          policy := if sameData plain.policy policy then
              policy.unstashed (policy.laidOver restored fresh)
            else policy.stashedUnder (policy.laidOver restored fresh)
          restored := restored.isSome
          stashed := !sameData plain.policy policy } := by
  simp only [convert_eq, Except.bind_eq_ok_iff, Except.mapError_eq_ok_iff]
  constructor
  · rintro ⟨restored, hrestored, fresh, hfresh, plain, hplain, heq⟩
    exact ⟨restored, fresh, plain, hrestored, hfresh, hplain, (Except.ok.inj heq).symm⟩
  · rintro ⟨restored, fresh, plain, hrestored, hfresh, hplain, rfl⟩
    exact ⟨restored, hrestored, fresh, hfresh, plain, hplain, rfl⟩

end Hub.Policy

/-! ## From the spoke -/

namespace Spoke.Policy

variable {policy : Policy} {metadata : Metadata} {result : Converted Hub.Policy}

/-- The hub spec of a spoke, given the stashed one. -/
def laidOver (policy : Policy) : Option Hub.Spec → Except PayloadFault Hub.Spec
  | some restored => policy.spec.toHub.overlay restored policy.spec
  | none => .ok policy.spec.toHub

/-- The steps of mapping to the hub, errors included. -/
theorem mapToHub_eq (saved : Option Hub.Spec) :
    policy.mapToHub metadata saved = (do
      let spec ← (policy.laidOver saved).mapError .payload
      let again ← spec.toSpoke.mapError .conditions
      return {
        policy := {
          kind := policy.kind
          metadata := if sameData again policy.spec then metadata
            else metadata.stash policy.kind { spec := policy.spec }
          spec
          status := policy.status }
        restored := saved.isSome
        stashed := !sameData again policy.spec }) := by
  cases saved
  all_goals
    refine bind_congr fun spec => bind_congr fun again => ?_
    cases sameData again policy.spec <;> rfl

/-- Mapping to the hub stashes the spoke unless mapping back gives its spec again. -/
theorem mapToHub_eq_ok_iff {saved : Option Hub.Spec} :
    policy.mapToHub metadata saved = .ok result ↔
      ∃ spec again, policy.laidOver saved = .ok spec ∧ spec.toSpoke = .ok again ∧
        result = {
          policy := {
            kind := policy.kind
            metadata := if sameData again policy.spec then metadata
              else metadata.stash policy.kind { spec := policy.spec }
            spec
            status := policy.status }
          restored := saved.isSome
          stashed := !sameData again policy.spec } := by
  simp only [mapToHub_eq, Except.bind_eq_ok_iff, Except.mapError_eq_ok_iff]
  constructor
  · rintro ⟨spec, hspec, again, hagain, heq⟩
    exact ⟨spec, again, hspec, hagain, (Except.ok.inj heq).symm⟩
  · rintro ⟨spec, again, hspec, hagain, rfl⟩
    exact ⟨spec, hspec, again, hagain, rfl⟩

variable [Json.FloatReading]

theorem unedited?_eq_ok_iff {saved : Stashed Hub.Spec} {former : Option Hub.Policy} :
    policy.unedited? saved = .ok former ↔
      ∃ converted, (policy.stashedHub saved).convert = .ok converted ∧
        former = if sameData converted.policy policy then some (policy.stashedHub saved)
          else none := by
  simp only [unedited?, Except.bind_eq_ok_iff, Except.mapError_eq_ok_iff]
  constructor
  · rintro ⟨converted, hconverted, heq⟩
    exact ⟨converted, hconverted, (Except.ok.inj heq).symm⟩
  · rintro ⟨converted, hconverted, rfl⟩
    exact ⟨converted, hconverted, rfl⟩

/-- The ways of converting a spoke: without a stash of a hub, with the hub it was converted from
while it is what that converts to, and with one it has been edited since. -/
theorem convert_eq_ok_iff :
    policy.convert = .ok result ↔
      ∃ restored, policy.metadata.stashed = .ok restored ∧
        match restored with
        | none => policy.mapToHub policy.metadata.withoutPayload none = .ok result
        | some saved => ∃ converted, (policy.stashedHub saved).convert = .ok converted ∧
            if sameData converted.policy policy then
              result = { policy := policy.stashedHub saved, restored := true, stashed := false }
            else policy.mapToHub policy.metadata.withoutPayload (some saved.spec) = .ok result := by
  simp only [convert, Except.bind_eq_ok_iff, Except.mapError_eq_ok_iff]
  refine exists_congr fun restored => and_congr_right fun _ => ?_
  cases restored with
  | none => rfl
  | some saved =>
      simp only [Except.bind_eq_ok_iff, Except.mapError_eq_ok_iff, unedited?_eq_ok_iff]
      constructor
      · rintro ⟨_, ⟨converted, hconverted, rfl⟩, heq⟩
        refine ⟨converted, hconverted, ?_⟩
        cases hsame : sameData converted.policy policy with
        | false => simpa [hsame] using heq
        | true => simpa [hsame, pure, Except.pure, eq_comm] using heq
      · rintro ⟨converted, hconverted, hresult⟩
        refine ⟨_, ⟨converted, hconverted, rfl⟩, ?_⟩
        cases hsame : sameData converted.policy policy with
        | false => simpa [hsame] using hresult
        | true => simpa [hsame, pure, Except.pure, eq_comm] using hresult

/-- A spoke is mapped, unless it is found to be what the hub it converts to converts to. -/
theorem convert_cases (h : policy.convert = .ok result) :
    (∃ saved, policy.mapToHub policy.metadata.withoutPayload saved = .ok result) ∨
      ∃ converted, result.policy.convert = .ok converted ∧ sameData converted.policy policy := by
  obtain ⟨restored, -, hcase⟩ := convert_eq_ok_iff.mp h
  cases restored with
  | none => exact .inl ⟨none, hcase⟩
  | some saved =>
      obtain ⟨converted, hconverted, hresult⟩ := hcase
      split at hresult
      case isTrue hsame =>
        obtain rfl := hresult
        exact .inr ⟨converted, hconverted, hsame⟩
      case isFalse => exact .inl ⟨_, hresult⟩

end Spoke.Policy

/-! ## To the other version -/

variable [Json.FloatReading]

/-- A hub is converted to the other version by one direction, and a spoke by the other. -/
theorem Converter.convert_cases {converter : Converter} {source : AnyPolicy} {desired : ApiVersion}
    {result : Converted AnyPolicy} (h : converter.convert source desired = .ok result)
    (hother : desired ≠ source.version) :
    (∃ policy down, source = .hub policy ∧ policy.convert = .ok down ∧
      result = { policy := .spoke down.policy, restored := down.restored,
                 stashed := down.stashed }) ∨
    ∃ policy up, source = .spoke policy ∧ policy.convert = .ok up ∧
      result = { policy := .hub up.policy, restored := up.restored, stashed := up.stashed } := by
  unfold convert at h
  split at h
  · cases h
  split at h
  · cases h
  cases source with
  | hub policy =>
      cases desired with
      | v1 => exact absurd rfl hother
      | v2 =>
          obtain ⟨down, hdown, heq⟩ := Except.map_eq_ok_iff.mp h
          exact .inl ⟨policy, down, rfl, Except.mapError_eq_ok_iff.mp hdown, heq.symm⟩
  | spoke policy =>
      cases desired with
      | v1 =>
          obtain ⟨up, hup, heq⟩ := Except.map_eq_ok_iff.mp h
          exact .inr ⟨policy, up, rfl, Except.mapError_eq_ok_iff.mp hup, heq.symm⟩
      | v2 => exact absurd rfl hother

/-! ## Given documents -/

/-- A small policy document. -/
def Json.policyDocument (version : String) (annotations spec : List (String × Json)) : Json :=
  .obj [("apiVersion", .str version), ("kind", .str "ClusterPolicy"),
    ("metadata", .obj [("annotations", .obj annotations), ("name", .str "sample")]),
    ("spec", .obj spec)]

/-- A hub with a flag that the spoke has no peer for. -/
def Json.flaggedHub : Json :=
  .policyDocument "kyverno.io/v1" [] [("schemaValidation", .bool true)]

/-- The document holds a hub that converts, and the two are as asked. -/
def Json.hubConverts (document : Json) (ask : Hub.Policy → Converted Spoke.Policy → Bool) : Bool :=
  match AnyPolicy.ofJson document with
  | .ok (.hub policy) => policy.convert.any (ask policy)
  | _ => false

theorem Json.exists_of_hubConverts {document : Json}
    {ask : Hub.Policy → Converted Spoke.Policy → Bool} (h : document.hubConverts ask) :
    ∃ policy result, AnyPolicy.ofJson document = .ok (.hub policy) ∧
      policy.convert = .ok result ∧ ask policy result := by
  rw [hubConverts] at h
  split at h
  case h_1 policy hdocument =>
    obtain ⟨result, hconvert, hasked⟩ := Except.any_iff.mp h
    exact ⟨policy, result, hdocument, hconvert, hasked⟩
  case h_2 => cases h

/-- The document holds a spoke that converts, and the two are as asked. -/
def Json.spokeConverts (document : Json) (ask : Spoke.Policy → Converted Hub.Policy → Bool) :
    Bool :=
  match AnyPolicy.ofJson document with
  | .ok (.spoke policy) => policy.convert.any (ask policy)
  | _ => false

theorem Json.exists_of_spokeConverts {document : Json}
    {ask : Spoke.Policy → Converted Hub.Policy → Bool} (h : document.spokeConverts ask) :
    ∃ policy result, AnyPolicy.ofJson document = .ok (.spoke policy) ∧
      policy.convert = .ok result ∧ ask policy result := by
  rw [spokeConverts] at h
  split at h
  case h_1 policy hdocument =>
    obtain ⟨result, hconvert, hasked⟩ := Except.any_iff.mp h
    exact ⟨policy, result, hdocument, hconvert, hasked⟩
  case h_2 => cases h

end HubSpoke
