import HubSpoke.Proofs.Conversion.RoundTrip
import HubSpoke.Proofs.Stash.Units

/-!
# Units that an edit leaves alone

A spoke that a hub was converted to may be edited freely, as long as it keeps its reserved
annotation.  It converts back, and whatever unit of a rule is still the one that was sent comes back
as the hub wrote it, in its older form if it had one; so do the fields that have no peer.

A hub that converts without loss is not stashed, and comes back because mapping back gives it again.
A stashed hub comes back whole while the spoke is what it was, and otherwise rule by rule.
-/

namespace HubSpoke

/-- What a spec made from an edited spoke keeps of the hub spec that was sent: the fields without a
peer, and each unit of a rule that the edit left alone. -/
structure Hub.Spec.KeepsUntouched (back former : Spec) (sent edited : Spoke.Spec) : Prop where
  overrides : back.validationFailureActionOverrides = former.validationFailureActionOverrides
  generateExisting : back.generateExistingOnPolicyUpdate = former.generateExistingOnPolicyUpdate
  schemaValidation : back.schemaValidation = former.schemaValidation
  units {position : Nat} {current other : Spoke.Rule} {saved : Rule}
    (hcurrent : edited.rules[position]? = some current)
    (hsaved : saved ∈ former.rules) (hsavedName : saved.name = current.name)
    (hother : other ∈ sent.rules) (hotherName : other.name = current.name) :
    ∃ rule, back.rules[position]? = some rule ∧
      ∀ unit, current.SameUnit other unit → rule.SameUnit saved unit

namespace Hub.Spec

variable {former back : Spec} {sent edited : Spoke.Spec}

/-! ## The three ways back -/

/-- Where mapping back gives the hub, a unit that is still the same is mapped to the same. -/
theorem keepsUntouched_of_toHub (hnames : (sent.rules.map Spoke.Rule.name).Nodup)
    (hformer : sent.toHub = former) : edited.toHub.KeepsUntouched former sent edited := by
  subst hformer
  refine ⟨rfl, rfl, rfl, ?_⟩
  intro position current other saved hcurrent hsaved hsavedName hother hotherName
  obtain ⟨origin, horigin, rfl⟩ := List.mem_map.mp hsaved
  obtain rfl : origin = other :=
    List.inj_on_of_nodup_map hnames horigin hother (hsavedName.trans hotherName.symm)
  refine ⟨current.toHub, ?_, fun unit hunit => hunit.toHub⟩
  exact List.getElem?_map.trans (congrArg (Option.map Spoke.Rule.toHub) hcurrent)

/-- A spoke whose rules have the names they had gets each rule of the hub back. -/
theorem keepsUntouched_self (hnames : (former.rules.map Rule.name).Nodup)
    (hedited : edited.rules.map Spoke.Rule.name = former.rules.map Rule.name) :
    former.KeepsUntouched former sent edited := by
  refine ⟨rfl, rfl, rfl, ?_⟩
  intro position current other saved hcurrent hsaved hsavedName _ _
  have hname : (former.rules.map Rule.name)[position]? = some current.name := by
    rw [← hedited, List.getElem?_map, hcurrent, Option.map_some]
  obtain ⟨rule, hrule, hruleName⟩ := Option.map_eq_some_iff.mp (List.getElem?_map ▸ hname)
  obtain rfl : rule = saved := List.inj_on_of_nodup_map hnames (List.mem_of_getElem? hrule) hsaved
    (hruleName.trans hsavedName.symm)
  exact ⟨rule, hrule, fun unit _ => rule.sameUnit_refl unit⟩

/-- A stash brings back the fields that the spoke has no peer for. -/
theorem peerless_overlay (h : edited.toHub.overlay former edited = .ok back) :
    back.validationFailureActionOverrides = former.validationFailureActionOverrides ∧
      back.generateExistingOnPolicyUpdate = former.generateExistingOnPolicyUpdate ∧
      back.schemaValidation = former.schemaValidation := by
  obtain ⟨remapped, -, heq⟩ := Except.bind_eq_ok_iff.mp h
  obtain rfl := Except.ok.inj heq
  have hoverrides : (if former.validationFailureActionOverrides.isEmpty then []
      else former.validationFailureActionOverrides) = former.validationFailureActionOverrides := by
    split
    case isTrue hempty => exact (List.isEmpty_iff.mp hempty).symm
    case isFalse => rfl
  have habsent {α : Type} (value : Option α) : (value <|> none) = value := by cases value <;> rfl
  split <;> exact ⟨hoverrides, habsent _, habsent _⟩

/-- A rule of an overlaid spec, where the stash has a rule of its name. -/
theorem getElem?_rules_overlay {fresh : Spoke.Spec} (hfresh : former.toSpoke = .ok fresh)
    (hnames : (former.rules.map Rule.name).Nodup)
    (h : edited.toHub.overlay former edited = .ok back) {position : Nat}
    {current mapped : Spoke.Rule} {saved : Rule} (hcurrent : edited.rules[position]? = some current)
    (hpair : (saved, mapped) ∈ former.rules.zip fresh.rules) (hname : saved.name = current.name) :
    back.rules[position]? = some (current.toHub.restoreUnits saved mapped current) := by
  obtain ⟨remapped, hremapped, heq⟩ := Except.bind_eq_ok_iff.mp h
  obtain rfl := Except.ok.inj (hfresh.symm.trans (Except.mapError_eq_ok_iff.mp hremapped))
  obtain rfl := Except.ok.inj heq
  have hlength : former.rules.length = fresh.rules.length := by
    simpa using (congrArg List.length (names_toSpoke hfresh)).symm
  have hpairNames : ((former.rules.zip fresh.rules).map fun pair => pair.1.name).Nodup := by
    have hfirst := List.map_fst_zip hlength.le
    rw [← hfirst, List.map_map] at hnames
    exact hnames
  have hcounterpart : counterpart? (fun pair => pair.1.name) (former.rules.zip fresh.rules)
      position current.toHub.name = some (saved, mapped) :=
    counterpart?_eq_some hpairNames hpair hname position
  have hrule : edited.toHub.rules[position]? = some current.toHub :=
    List.getElem?_map.trans (congrArg (Option.map Spoke.Rule.toHub) hcurrent)
  simp [overlayRules, hrule, hcurrent, hcounterpart]

/-- What a rule maps to shares with the sent rule of its name all that is compared. -/
theorem mem_zip_stripped {fresh : Spoke.Spec} (hfresh : former.toSpoke = .ok fresh)
    (hsent : sent.stripped = fresh.stripped) (hnames : (sent.rules.map Spoke.Rule.name).Nodup)
    {saved : Rule} {other : Spoke.Rule} (hsaved : saved ∈ former.rules)
    (hother : other ∈ sent.rules) (hname : saved.name = other.name) :
    ∃ mapped, (saved, mapped) ∈ former.rules.zip fresh.rules ∧
      mapped.stripped = other.stripped := by
  have hmaps := toSpoke_stripped hfresh
  have hfirst := List.map_fst_zip hmaps.length_eq.le
  rw [← hfirst] at hsaved
  obtain ⟨⟨_, mapped⟩, hpair, rfl⟩ := List.mem_map.mp hsaved
  have hmem : mapped.stripped ∈ sent.stripped.rules :=
    hsent ▸ List.mem_map_of_mem (List.of_mem_zip hpair).2
  obtain ⟨twin, htwin, hshared⟩ := List.mem_map.mp hmem
  have htwinName : twin.name = other.name :=
    calc twin.name = twin.stripped.name := rfl
      _ = mapped.stripped.name := congrArg Spoke.Rule.name hshared
      _ = other.name := (List.forall₂_zip hmaps hpair).name.trans hname
  obtain rfl := List.inj_on_of_nodup_map hnames htwin hother htwinName
  exact ⟨mapped, hpair, hshared.symm⟩

/-- Of a stashed hub, each unit comes back that maps to what the edited rule holds. -/
theorem keepsUntouched_overlay {fresh : Spoke.Spec} (hfresh : former.toSpoke = .ok fresh)
    (hsent : sent.stripped = fresh.stripped) (hnames : (former.rules.map Rule.name).Nodup)
    (hback : edited.toHub.overlay former edited = .ok back) :
    back.KeepsUntouched former sent edited := by
  obtain ⟨hoverrides, hgenerate, hschema⟩ := peerless_overlay hback
  refine ⟨hoverrides, hgenerate, hschema, ?_⟩
  intro position current other saved hcurrent hsaved hsavedName hother hotherName
  have hsentNames : (sent.rules.map Spoke.Rule.name).Nodup := by
    rwa [Spoke.Spec.names_of_stripped hsent, names_toSpoke hfresh]
  obtain ⟨mapped, hpair, hmapped⟩ :=
    mem_zip_stripped hfresh hsent hsentNames hsaved hother (hsavedName.trans hotherName.symm)
  refine ⟨_, getElem?_rules_overlay hfresh hnames hback hcurrent hpair hsavedName, ?_⟩
  exact fun unit hunit => Rule.sameUnit_restoreUnits (hunit.of_stripped hmapped).symm

end Hub.Spec

/-! ## Edited spokes -/

theorem Spoke.Policy.names_of_sameData {policy other : Policy} (h : sameData policy other) :
    policy.spec.rules.map Rule.name = other.spec.rules.map Rule.name := by
  have hrules : policy.spec.rules.map unsigned = other.spec.rules.map unsigned :=
    congrArg (fun policy => policy.spec.rules) (of_decide_eq_true h)
  have hnames := congrArg (List.map Rule.name) hrules
  rwa [List.map_map, List.map_map] at hnames

namespace Hub.Policy

variable {policy : Policy} {result : Converted Spoke.Policy} {spoke : Spoke.Policy}

theorem names_convert [Json.FloatReading] (h : policy.convert = .ok result) :
    result.policy.spec.rules.map Spoke.Rule.name = policy.spec.rules.map Rule.name := by
  obtain ⟨restored, fresh, -, hfresh, hspec⟩ := exists_laidOver h
  rw [hspec, Spoke.Spec.names_of_stripped (stripped_laidOver restored fresh),
    Spec.names_toSpoke hfresh]

/-- A spoke without a stash keeps what mapping back gives. -/
theorem keepsUntouched_unstashed [Json.FloatReading] {plain : Converted Policy}
    {sent : Spoke.Policy} {metadata : Metadata} (hplain : sent.mapToHub metadata none = .ok plain)
    (hback : plain.policy = policy) (hnames : (sent.spec.rules.map Spoke.Rule.name).Nodup)
    (hkept : spoke.metadata.payload? = none) :
    ∃ up, spoke.convert = .ok up ∧
      up.policy.spec.KeepsUntouched policy.spec sent.spec spoke.spec := by
  obtain ⟨_, _, hspec, -, rfl⟩ := Spoke.Policy.mapToHub_eq_ok_iff.mp hplain
  obtain rfl := Except.ok.inj hspec
  obtain ⟨up, hup, hupSpec⟩ := @Spoke.Policy.exists_mapToHub spoke none _
    spoke.metadata.withoutPayload rfl
  have hconvert := Spoke.Policy.convert_eq_ok_iff.mpr
    ⟨none, Metadata.stashed_of_payload?_eq_none hkept, hup⟩
  refine ⟨up, hconvert, hupSpec ▸ ?_⟩
  exact Spec.keepsUntouched_of_toHub hnames (congrArg Policy.spec hback)

/-- A spoke with the stash of the hub keeps what the stash holds. -/
theorem keepsUntouched_stashed [Json.FloatReading]
    (hnames : (policy.spec.rules.map Rule.name).Nodup) (hconvert : policy.convert = .ok result)
    {saved : Stashed Spec}
    (hsaved : saved = { spec := policy.spec, sourceAnnotation := policy.metadata.payload? })
    (hstashed : spoke.metadata.stashed = .ok (some saved)) :
    ∃ up, spoke.convert = .ok up ∧
      up.policy.spec.KeepsUntouched policy.spec result.policy.spec spoke.spec := by
  obtain ⟨restored, fresh, hrestored, hfresh, hspec⟩ := exists_laidOver hconvert
  have hrestored' : (spoke.stashedHub saved).metadata.stashed = .ok restored := by
    rw [Metadata.stashed, Spoke.Policy.payload?_stashedHub, hsaved]
    exact hrestored
  have hformer : saved.spec = policy.spec := congrArg Stashed.spec hsaved
  obtain ⟨converted, up, hconverted, hup, hcase⟩ :=
    Spoke.Policy.exists_convert_stashed hstashed hrestored' (hformer ▸ hfresh)
  refine ⟨up, hup, ?_⟩
  split at hcase
  case isTrue hsame =>
    -- the spoke is what its stash converts to, so the hub it holds is given back
    have hback : up.policy.spec = policy.spec := (congrArg Policy.spec hcase).trans hformer
    refine hback.symm ▸ Spec.keepsUntouched_self hnames ?_
    rw [← Spoke.Policy.names_of_sameData hsame, names_convert hconverted]
    exact congrArg (fun spec => spec.rules.map Rule.name) hformer
  case isFalse =>
    -- it was edited, so the stash is laid over what it maps to
    refine Spec.keepsUntouched_overlay hfresh ?_ hnames (hformer ▸ hcase)
    rw [hspec, stripped_laidOver]

end Hub.Policy

/-- A hub converts to a spoke with rules of the same names, and whatever spoke carries the same
reserved annotation converts back and keeps what the edit left alone. -/
theorem untouched_units_survive [Json.FloatReading] {document : Json} {policy : Hub.Policy}
    {result : Converted Spoke.Policy} {spoke : Spoke.Policy}
    (hfits : document.fits .whole Json.maxDepth)
    (hdocument : AnyPolicy.ofJson document = .ok (.hub policy))
    (hnames : (policy.spec.rules.map Hub.Rule.name).Nodup)
    (hconvert : policy.convert = .ok result)
    (hkept : spoke.metadata.payload? = result.policy.metadata.payload?) :
    result.policy.spec.rules.map Spoke.Rule.name = policy.spec.rules.map Hub.Rule.name ∧
      ∃ up, spoke.convert = .ok up ∧
        up.policy.spec.KeepsUntouched policy.spec result.policy.spec spoke.spec := by
  have hsentNames := Hub.Policy.names_convert hconvert
  refine ⟨hsentNames, ?_⟩
  rcases Hub.Policy.lossless_or_stashed (AnyPolicy.hub_readsIn hfits hdocument) hconvert with
    ⟨plain, hback, hunstashed, hplain⟩ | ⟨saved, hsaved, hstashed, -⟩
  · have hpayload : spoke.metadata.payload? = none := by
      rw [hkept, hunstashed]
      exact Metadata.payload?_withoutPayload _
    exact Hub.Policy.keepsUntouched_unstashed hplain hback (hsentNames ▸ hnames) hpayload
  · rw [Metadata.stashed, ← hkept] at hstashed
    exact Hub.Policy.keepsUntouched_stashed hnames hconvert hsaved hstashed

/-- A hub whose first rule has its filter written inline. -/
def Json.mixedHub : Json :=
  .policyDocument "kyverno.io/v1" []
    [("rules", .arr [
      .obj [("match", .obj [("resources", .obj [("kinds", .arr [.str "Pod"])])]),
        ("name", .str "first"), ("validate", .obj [])],
      .obj [("mutate", .obj []), ("name", .str "second")]])]

/-- The spoke with only its first rule, which has become the second of two. -/
def Spoke.Policy.reordered (policy : Policy) : Policy :=
  { policy with spec := { policy.spec with rules := {} :: policy.spec.rules.take 1 } }

theorem untouched_units_survive_reordered :
    ∃ policy result up, AnyPolicy.ofJson Json.mixedHub = .ok (.hub policy) ∧
      policy.convert = .ok result ∧ result.stashed = true ∧
      result.policy.reordered.convert = .ok up ∧
      up.policy.spec.KeepsUntouched policy.spec result.policy.spec
        result.policy.reordered.spec := by
  have hrun : Json.mixedHub.hubConverts fun policy result => result.stashed &&
      decide (policy.spec.rules.map Hub.Rule.name).Nodup := by decide +kernel
  obtain ⟨policy, result, hdocument, hresult, hasked⟩ := Json.exists_of_hubConverts hrun
  obtain ⟨hstashed, hnames⟩ := Bool.and_eq_true_iff.mp hasked
  obtain ⟨-, up, hup, hkeeps⟩ := @untouched_units_survive _ _ _ _ result.policy.reordered
    (by decide +kernel) hdocument (of_decide_eq_true hnames) hresult rfl
  exact ⟨policy, result, up, hdocument, hresult, hstashed, hup, hkeeps⟩

end HubSpoke
