import HubSpoke.Proofs.Conversion.Steps
import HubSpoke.Proofs.Mapping.RoundTrip
import HubSpoke.Proofs.Policy.Document

/-!
# The source goes before the stash

The reserved annotation is text that anyone may have written.  Whatever it holds, a conversion that
succeeds does not let it change what the source says: a spoke is, up to overrides and routed values,
what the hub spec maps to, and its rules supply the values of the hub for every kind of rule the hub
has; a hub maps back to what the spoke says, up to overrides and routed values.
-/

namespace HubSpoke

/-! ## From the hub -/

namespace Hub.Policy

variable {policy : Policy}

theorem stripped_laidOver (restored : Option (Stashed Spoke.Spec)) (fresh : Spoke.Spec) :
    (policy.laidOver restored fresh).stripped = fresh.stripped := by
  cases restored with
  | none => rfl
  | some saved => exact Spoke.Spec.stripped_overlay _ _ _

/-- Whatever is laid over, the rules supply the values of the hub for the kinds it has. -/
theorem only_laidOver (restored : Option (Stashed Spoke.Spec)) {fresh : Spoke.Spec}
    (hfresh : policy.spec.toSpoke = .ok fresh) {rule : Rule} (hrule : rule ∈ policy.spec.rules) :
    (Routed.ofSpoke (policy.laidOver restored fresh)).only rule.kind =
      (Routed.ofHub policy.spec).only rule.kind := by
  cases restored with
  | none => exact Spec.only_ofSpoke hfresh hrule
  | some saved =>
      rcases Spoke.Spec.ofSpoke_overlay fresh saved.spec policy.spec with heq | heq
      · rw [laidOver, heq]
      · rw [laidOver, heq]
        exact Spec.only_ofSpoke hfresh hrule

/-- The converted spec is the mapped one with what the stash holds laid over it. -/
theorem exists_laidOver [Json.FloatReading] {result : Converted Spoke.Policy}
    (h : policy.convert = .ok result) :
    ∃ restored fresh, policy.metadata.stashed = .ok restored ∧ policy.spec.toSpoke = .ok fresh ∧
      result.policy.spec = policy.laidOver restored fresh := by
  obtain ⟨restored, fresh, plain, hrestored, hfresh, -, rfl⟩ := convert_eq_ok_iff.mp h
  refine ⟨restored, fresh, hrestored, hfresh, ?_⟩
  cases sameData plain.policy policy <;> rfl

end Hub.Policy

/-! ## From the spoke -/

namespace Spoke

theorem Rule.unsigned_stripped (rule : Rule) :
    unsigned rule.stripped = (unsigned rule).stripped := by
  cases hvalidation : rule.validation <;> cases hmutation : rule.mutation <;>
    cases hgeneration : rule.generation <;>
      simp [unsigned, stripped, hvalidation, hmutation, hgeneration]

theorem Spec.unsigned_stripped (spec : Spec) :
    unsigned spec.stripped = (unsigned spec).stripped := by
  have hrules : unsigned (spec.rules.map Rule.stripped) =
      (unsigned spec.rules).map Rule.stripped := by
    simp only [unsigned, List.map_map]
    exact List.map_congr_left fun rule _ => Rule.unsigned_stripped rule
  exact congrArg (fun rules => ({ spec with rules } : Spec)) hrules

/-- Specs of the same data are stripped to the same data. -/
theorem Spec.sameData_stripped {first second : Spec} (h : sameData first second) :
    sameData first.stripped second.stripped := by
  have heq : unsigned first = unsigned second := of_decide_eq_true h
  exact decide_eq_true (by rw [unsigned_stripped, unsigned_stripped, heq])

theorem Rule.mapFloats_stripped (change : Binary64 → Json) (rule : Rule) :
    mapFloats change rule.stripped = (mapFloats change rule).stripped := by
  cases hvalidation : rule.validation <;> cases hmutation : rule.mutation <;>
    cases hgeneration : rule.generation <;>
      simp [mapFloats, stripped, hvalidation, hmutation, hgeneration]

theorem Spec.mapFloats_stripped (change : Binary64 → Json) (spec : Spec) :
    mapFloats change spec.stripped = (mapFloats change spec).stripped := by
  have hrules : mapFloats change (spec.rules.map Rule.stripped) =
      (mapFloats change spec.rules).map Rule.stripped := by
    simp only [mapFloats, List.map_map]
    exact List.map_congr_left fun rule _ => Rule.mapFloats_stripped change rule
  exact congrArg (fun rules => ({ spec with rules } : Spec)) hrules

/-- A spec without floats is stripped to the only one of its data. -/
theorem Spec.eq_stripped {other spec : Spec} (hwhole : mapFloats (fun _ => .int 0) spec = spec)
    (h : sameData other spec.stripped) : other = spec.stripped :=
  eq_of_unsigned (by rw [mapFloats_stripped, hwhole]) (of_decide_eq_true h)

/-- The hub a decoded spoke converts to maps back to what the spoke says. -/
theorem Policy.toSpoke_of_convert [Json.FloatReading] {document : Json} {policy : Policy}
    {result : Converted Hub.Policy} (hdecode : Spec.codec.decode document = .ok policy.spec)
    (h : policy.convert = .ok result) :
    ∃ mapped, result.policy.spec.toSpoke = .ok mapped ∧
      sameData mapped.stripped policy.spec.stripped := by
  rcases convert_cases h with ⟨saved, hmap⟩ | ⟨converted, hconverted, hsame⟩
  · obtain ⟨spec, again, hspec, hagain, rfl⟩ := mapToHub_eq_ok_iff.mp hmap
    cases saved with
    | none =>
        obtain rfl := Except.ok.inj hspec
        refine ⟨_, (Spec.readsBack hdecode).toSpoke_toHub, decide_eq_true (congrArg unsigned ?_)⟩
        exact Spec.stripped_rerouted _ _
    | some restored => exact Hub.Spec.overlay_toSpoke (Spec.readsBack hdecode) hspec
  · obtain ⟨restored, fresh, -, hfresh, hspec⟩ := Hub.Policy.exists_laidOver hconverted
    have hsameSpec : sameData converted.policy.spec policy.spec :=
      decide_eq_true (congrArg Spoke.Policy.spec (of_decide_eq_true hsame))
    refine ⟨fresh, hfresh, ?_⟩
    rw [← Hub.Policy.stripped_laidOver restored fresh, ← hspec]
    exact Spec.sameData_stripped hsameSpec

end Spoke

/-! ## Both directions -/

/-- Whatever the reserved annotation holds: a hub converts to a spoke that shares with the mapped
spec all that the two versions have in common, and whose rules supply the hub's value for every kind
of rule the hub has; and a decoded spoke converts to a hub that maps back to what the spoke has in
common with it, exactly so where its document holds no floats. -/
theorem source_before_stash [Json.FloatReading] :
    (∀ {policy : Hub.Policy} {result : Converted Spoke.Policy}, policy.convert = .ok result →
      ∃ fresh, policy.spec.toSpoke = .ok fresh ∧
        result.policy.spec.stripped = fresh.stripped ∧
        ∀ rule ∈ policy.spec.rules, (Routed.ofSpoke result.policy.spec).only rule.kind =
          (Routed.ofHub policy.spec).only rule.kind) ∧
    (∀ {document : Json} {policy : Spoke.Policy} {result : Converted Hub.Policy},
      AnyPolicy.ofJson document = .ok (.spoke policy) → policy.convert = .ok result →
        ∃ mapped, result.policy.spec.toSpoke = .ok mapped ∧
          sameData mapped.stripped policy.spec.stripped ∧
          ∀ {levels : Nat}, document.fits .whole levels →
            mapped.stripped = policy.spec.stripped) := by
  constructor
  · intro policy result hconvert
    obtain ⟨restored, fresh, -, hfresh, hspec⟩ := Hub.Policy.exists_laidOver hconvert
    refine ⟨fresh, hfresh, ?_, fun rule hrule => ?_⟩
    · rw [hspec, Hub.Policy.stripped_laidOver]
    · rw [hspec, Hub.Policy.only_laidOver restored hfresh hrule]
  · intro document policy result hdocument hconvert
    obtain ⟨part, hdecode, hpart⟩ := AnyPolicy.spoke_holdsSpec hdocument
    obtain ⟨mapped, hmapped, hsame⟩ := Spoke.Policy.toSpoke_of_convert hdecode hconvert
    refine ⟨mapped, hmapped, hsame, fun {levels} hfits => ?_⟩
    have hwhole : part.fits .whole (levels + 1) :=
      hpart (by omega) (Json.fits_mono hfits (by omega))
    exact Spoke.Spec.eq_stripped (Spoke.Spec.codec_lawful.mapFloats_eq_self hwhole hdecode
      Json.numeric_zero) hsame

/-- A hub with a forged stash of a spoke that has another message and some overrides. -/
def Json.forgedHub : Json :=
  .policyDocument "kyverno.io/v1"
    [(Stashed.annotation, .str ("\x7b\"apiVersion\":\"kyverno.io/v2\",\"spec\":\x7b\"rules\":[" ++
      "\x7b\"name\":\"sample\",\"validate\":\x7b\"message\":\"forged\"," ++
      "\"validationFailureActionOverrides\":[\x7b\"action\":\"Audit\"\x7d]\x7d\x7d]\x7d\x7d"))]
    [("rules", .arr [.obj [("name", .str "sample"),
        ("validate", .obj [("message", .str "genuine")])]]),
      ("validationFailureAction", .str "Enforce")]

/-- A spoke with a forged stash of a hub that has another message and a legacy match block. -/
def Json.forgedSpoke : Json :=
  .policyDocument "kyverno.io/v2"
    [(Stashed.annotation, .str ("\x7b\"apiVersion\":\"kyverno.io/v1\",\"spec\":\x7b\"rules\":[" ++
      "\x7b\"match\":\x7b\"resources\":\x7b\"name\":\"forged\"\x7d\x7d,\"name\":\"sample\"," ++
      "\"validate\":\x7b\"message\":\"forged\"\x7d\x7d]\x7d\x7d"))]
    [("rules", .arr [.obj [("name", .str "sample"),
      ("validate", .obj [("message", .str "genuine")])]])]

theorem source_before_stash_forged :
    (∃ policy result fresh, AnyPolicy.ofJson Json.forgedHub = .ok (.hub policy) ∧
      policy.convert = .ok result ∧ result.restored = true ∧ policy.spec.toSpoke = .ok fresh ∧
      result.policy.spec ≠ fresh ∧ result.policy.spec.stripped = fresh.stripped) ∧
    (∃ policy result mapped, AnyPolicy.ofJson Json.forgedSpoke = .ok (.spoke policy) ∧
      policy.convert = .ok result ∧ result.restored = true ∧
      result.policy.spec.toSpoke = .ok mapped ∧ mapped.stripped = policy.spec.stripped) := by
  constructor
  · have hrun : Json.forgedHub.hubConverts fun policy result => result.restored &&
        decide (policy.spec.toSpoke ≠ .ok result.policy.spec) := by decide +kernel
    obtain ⟨policy, result, hdocument, hconvert, hasked⟩ := Json.exists_of_hubConverts hrun
    obtain ⟨hrestored, hchanged⟩ := Bool.and_eq_true_iff.mp hasked
    obtain ⟨fresh, hfresh, hstripped, -⟩ := source_before_stash.1 hconvert
    refine ⟨policy, result, fresh, hdocument, hconvert, hrestored, hfresh, ?_, hstripped⟩
    rintro rfl
    exact of_decide_eq_true hchanged hfresh
  · have hrun : Json.forgedSpoke.spokeConverts fun _ result => result.restored := by
      decide +kernel
    obtain ⟨policy, result, hdocument, hconvert, hrestored⟩ := Json.exists_of_spokeConverts hrun
    obtain ⟨mapped, hmapped, -, hexact⟩ := source_before_stash.2 hdocument hconvert
    exact ⟨policy, result, mapped, hdocument, hconvert, hrestored, hmapped,
      @hexact Json.maxDepth (by decide +kernel)⟩

end HubSpoke
