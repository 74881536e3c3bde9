import HubSpoke.Proofs.Conversion.RoundTrip
import HubSpoke.Proofs.Mapping.Failure
import HubSpoke.Proofs.Mapping.Floats

/-!
# Why a policy does not convert

Each direction runs the other one: to see what is lost, to see whether a spoke has been edited, and
to lay a stash over what was mapped.  None of these can fail on its own account.  A policy without a
reserved annotation fails to convert only where it is a hub with a malformed condition block, and
whatever a policy that was read converts to, converts back.

What makes the last step safe is that a hub that was stashed had mapped before, and that its stash
differs from it in the spelling of floats only (`Hub.Spec.exists_toSpoke_mapFloats`).
-/

namespace HubSpoke

/-! ## Without a reserved annotation -/

/-- A hub without a reserved annotation fails to convert just where its spec fails to map. -/
theorem Hub.Policy.convert_eq_error_iff [Json.FloatReading] {policy : Policy}
    (h : policy.metadata.payload? = none) {e : MappingError} :
    policy.convert = .error e ↔
      ∃ cause, FirstMalformed policy.spec.rawBlocks cause ∧ e = .conditions cause := by
  have hrestored : policy.metadata.stashed = .ok (none : Option (Stashed Spoke.Spec)) :=
    Metadata.stashed_of_payload?_eq_none h
  simp only [← Spec.toSpoke_eq_error_iff]
  cases hfresh : policy.spec.toSpoke with
  | error cause => simp [convert_eq, hrestored, hfresh, Except.mapError, bind, Except.bind, eq_comm]
  | ok fresh =>
      obtain ⟨down, hdown, -⟩ := exists_convert hrestored hfresh
      simp [hdown]

/-! ## And back -/

/-- What a hub converts to converts back, whatever floats its spec holds. -/
theorem Hub.Policy.exists_convert_result [Json.FloatReading] {policy : Policy}
    {down : Converted Spoke.Policy} (hreads : Spec.codec.ReadsIn .any 126 policy.spec)
    (h : policy.convert = .ok down) :
    ∃ back, down.policy.convert = .ok back := by
  obtain ⟨part, hfits, hdecode⟩ := hreads
  obtain ⟨restored, fresh, plain, hrestored, hfresh, -, rfl⟩ := convert_eq_ok_iff.mp h
  dsimp only
  split
  case isTrue => exact Spoke.Policy.exists_convert_unreserved (Metadata.payload?_withoutPayload _)
  case isFalse =>
    -- the stashed hub carries the annotation of the hub, and maps because that one does
    have hstashed := stashed_stashedUnder hdecode hfits (policy.laidOver restored fresh)
    obtain ⟨again, hagain⟩ := Spec.exists_toSpoke_mapFloats Binary64.numeric_respelled hfresh
    have hcarried : ((policy.stashedUnder (policy.laidOver restored fresh)).stashedHub
        { spec := mapFloats Binary64.respelled policy.spec
          sourceAnnotation := policy.metadata.payload? }).metadata.stashed = .ok restored := by
      rw [Metadata.stashed, Spoke.Policy.payload?_stashedHub]
      exact hrestored
    obtain ⟨-, back, -, hback, -⟩ :=
      Spoke.Policy.exists_convert_stashed hstashed hcarried hagain
    exact ⟨back, hback⟩

/-! ## All failures -/

/-- Where the policy converts, the result converts back. -/
def AnyPolicy.ConvertsBack [Json.FloatReading] : AnyPolicy → Prop
  | .hub policy => ∀ down, policy.convert = .ok down → ∃ back, down.policy.convert = .ok back
  | .spoke policy => ∀ up, policy.convert = .ok up → ∃ back, up.policy.convert = .ok back

/-- Of the policies without a reserved annotation, every spoke converts, and a hub fails to convert
just where some raw block does not type; then the first such block is told, with its path.  Whatever
a policy that was read converts to, whatever its annotation held, converts back. -/
theorem conversion_failures [Json.FloatReading] :
    (∀ policy : Spoke.Policy, policy.metadata.payload? = none →
      ∃ up, policy.convert = .ok up) ∧
    (∀ policy : Hub.Policy, policy.metadata.payload? = none →
      ((∃ e, policy.convert = .error e) ↔
        ∃ block ∈ policy.spec.rawBlocks, ∃ fault, ConditionBlock.ofRaw block.2 = .error fault) ∧
      ∀ e, policy.convert = .error e →
        ∃ cause, FirstMalformed policy.spec.rawBlocks cause ∧ e = .conditions cause) ∧
    (∀ (document : Json) (policy : AnyPolicy), document.fits .any Json.maxDepth →
      AnyPolicy.ofJson document = .ok policy → policy.ConvertsBack) := by
  refine ⟨fun policy => Spoke.Policy.exists_convert_unreserved, fun policy hreserved => ?_,
    fun document policy hfits hdocument => ?_⟩
  · have hfails (e : MappingError) := Hub.Policy.convert_eq_error_iff hreserved (e := e)
    refine ⟨?_, fun e => (hfails e).mp⟩
    simp only [hfails, ← exists_firstMalformed_iff]
    constructor
    · rintro ⟨_, cause, hcause, -⟩
      exact ⟨cause, hcause⟩
    · rintro ⟨cause, hcause⟩
      exact ⟨_, cause, hcause, rfl⟩
  · cases policy with
    | hub policy =>
        exact fun _ => Hub.Policy.exists_convert_result (AnyPolicy.hub_readsIn hfits hdocument)
    | spoke policy =>
        exact fun _ => Spoke.Policy.exists_convert_result (AnyPolicy.spoke_readsIn hfits hdocument)

/-- A hub whose second rule has two malformed blocks. -/
def Json.refusedHub : Json :=
  .policyDocument "kyverno.io/v1" []
    [("rules", .arr [
      .obj [("name", .str "first"), ("preconditions", .arr [])],
      .obj [("mutate", .obj [("targets", .arr [.obj [("preconditions", .bool true)]])]),
        ("name", .str "second"),
        ("validate", .obj [("deny", .obj [("conditions", .str "none")])])]])]

/-- A hub with a float in preconditions that are a bare list, and with an annotation made for its
own version. -/
def Json.listingHub : Json :=
  .policyDocument "kyverno.io/v1"
    [(Stashed.annotation, .str "\x7b\"apiVersion\":\"kyverno.io/v1\"\x7d")]
    [("rules", .arr [.obj [("name", .str "sample"),
      ("preconditions", .arr [
        .obj [("key", .float (.zero false)), ("operator", .str "Equals")]])]])]

theorem conversion_failures_refused :
    (∃ policy up, AnyPolicy.ofJson Json.perRuleSpoke = .ok (.spoke policy) ∧
      policy.convert = .ok up) ∧
    (∃ policy cause, AnyPolicy.ofJson Json.refusedHub = .ok (.hub policy) ∧
      policy.convert = .error (.conditions cause) ∧
      cause.path.text = "spec.rules[1].validate.deny.conditions") ∧
    (∃ policy down back, AnyPolicy.ofJson Json.listingHub = .ok (.hub policy) ∧
      policy.convert = .ok down ∧ down.stashed = true ∧ down.policy.convert = .ok back) := by
  obtain ⟨hspokes, hhubs, hback⟩ := conversion_failures
  refine ⟨?_, ?_, ?_⟩
  · have hrun : (AnyPolicy.ofJson Json.perRuleSpoke).any fun source => match source with
        | .spoke policy => policy.metadata.payload?.isNone
        | .hub _ => false := by decide +kernel
    obtain ⟨source, hdocument, hasked⟩ := Except.any_iff.mp hrun
    cases source with
    | hub => cases hasked
    | spoke policy =>
        obtain ⟨up, hup⟩ := hspokes policy (Option.isNone_iff_eq_none.mp hasked)
        exact ⟨policy, up, hdocument, hup⟩
  · have hrun : (AnyPolicy.ofJson Json.refusedHub).any fun source => match source with
        | .hub policy => policy.metadata.payload?.isNone &&
            decide ((policy.spec.rawBlocks.findSome? ConditionBlock.malformed?).map
              (fun cause => cause.path.text) = some "spec.rules[1].validate.deny.conditions")
        | .spoke _ => false := by decide +kernel
    obtain ⟨source, hdocument, hasked⟩ := Except.any_iff.mp hrun
    cases source with
    | spoke => cases hasked
    | hub policy =>
        obtain ⟨hreserved, hfirst⟩ := Bool.and_eq_true_iff.mp hasked
        obtain ⟨cause, hcause, hpath⟩ := Option.map_eq_some_iff.mp (of_decide_eq_true hfirst)
        obtain ⟨hfails, htold⟩ := hhubs policy (Option.isNone_iff_eq_none.mp hreserved)
        obtain ⟨e, he⟩ := hfails.mpr (exists_firstMalformed_iff.mp ⟨cause, hcause⟩)
        obtain ⟨told, htold, rfl⟩ := htold e he
        obtain rfl := Option.some.inj (hcause.symm.trans htold)
        exact ⟨policy, cause, hdocument, he, hpath⟩
  · have hrun : Json.listingHub.hubConverts fun _ down => down.stashed := by decide +kernel
    obtain ⟨policy, down, hdocument, hdown, hstashed⟩ := Json.exists_of_hubConverts hrun
    obtain ⟨back, hback⟩ :=
      hback Json.listingHub (.hub policy) (by decide +kernel) hdocument down hdown
    exact ⟨policy, down, back, hdocument, hdown, hstashed, hback⟩

end HubSpoke
