import HubSpoke.Proofs.Conversion.Readable
import HubSpoke.Proofs.Conversion.RoundTrip
import HubSpoke.Proofs.Mapping.Storable
import HubSpoke.Proofs.Policy.Rendering

/-!
# Runs of conversions

An object is read and written in either version, again and again, and must not change on the way.
Its first conversion to the other version settles it: from then on there are one hub and one spoke
that convert to each other.

* A hub comes back from the spoke it converts to, so these two are settled.
* A spoke may come back changed.  But whatever its annotation held, the hub it is stored as has a
  spec that is read from a document without floats (`Spoke.Policy.readsIn_convert`), so that this
  hub comes back from the spoke it converts to.

A run that has reached a settled pair stays in it, whatever versions are asked for (`Settled.run`).
Both policies of the pair are read back from the documents they are written as, so that writing and
reading them between two conversions makes no difference.
-/

namespace HubSpoke

/-! ## Settled pairs -/

/-- A hub and a spoke that convert to each other, and can be read. -/
structure Settled [Json.FloatReading] (hub : Hub.Policy) (spoke : Spoke.Policy) : Prop where
  down : ∃ result, hub.convert = .ok result ∧ result.policy = spoke
  up : ∃ result, spoke.convert = .ok result ∧ result.policy = hub
  hubReads : Hub.Policy.codec.Reads hub
  spokeReads : Spoke.Policy.codec.Reads spoke

/-- The spec of the hub a spoke is stored as is read from a document without floats, be it mapped,
laid over or stashed. -/
theorem Spoke.Policy.readsIn_convert [Json.FloatReading] {policy : Spoke.Policy}
    {up : Converted Hub.Policy} (hreads : Spec.codec.ReadsIn .whole 126 policy.spec)
    (hwhole : policy.metadata.wholePayload)
    (hconvert : policy.convert = .ok up) : Hub.Spec.codec.ReadsIn .whole 126 up.policy.spec := by
  obtain ⟨restored, hrestored, hcase⟩ := convert_eq_ok_iff.mp hconvert
  cases restored with
  | none =>
      obtain ⟨spec, again, hspec, -, rfl⟩ := mapToHub_eq_ok_iff.mp hcase
      obtain rfl := Except.ok.inj hspec
      exact Spec.readsIn_toHub (by decide) hreads
  | some saved =>
      have hsaved := Metadata.readsIn_of_stashed hwhole hrestored
      obtain ⟨converted, -, hresult⟩ := hcase
      split at hresult
      case isTrue =>
        -- the spoke has not been edited, so its spec is the stashed one
        obtain rfl := hresult
        exact hsaved
      case isFalse =>
        obtain ⟨spec, again, hspec, -, rfl⟩ := mapToHub_eq_ok_iff.mp hresult
        exact Hub.Spec.readsIn_overlay (by decide) hreads hsaved hspec

namespace Settled

variable [Json.FloatReading]

/-- A hub is settled with the spoke it converts to. -/
theorem of_hub {policy : Hub.Policy} {down : Converted Spoke.Policy}
    (hreads : Hub.Policy.codec.Reads policy)
    (hspec : Hub.Spec.codec.ReadsIn .whole 126 policy.spec) (hconvert : policy.convert = .ok down) :
    Settled policy down.policy where
  down := ⟨down, hconvert, rfl⟩
  up := Hub.Policy.exists_convert_back hspec hconvert
  hubReads := hreads
  spokeReads := Hub.Policy.reads_convert hreads hconvert

/-- The hub that a spoke is stored as is settled with some spoke. -/
theorem of_spoke {policy : Spoke.Policy} {up : Converted Hub.Policy}
    (hreads : Spoke.Policy.codec.Reads policy)
    (hspec : Spoke.Spec.codec.ReadsIn .whole 126 policy.spec)
    (hwhole : policy.metadata.wholePayload) (hconvert : policy.convert = .ok up) :
    ∃ spoke, Settled up.policy spoke := by
  obtain ⟨down, hdown⟩ := Spoke.Policy.exists_convert_result hspec.of_whole hconvert
  have hstored := Spoke.Policy.readsIn_convert hspec hwhole hconvert
  have hup := Spoke.Policy.reads_convert hreads hconvert hstored.reads
  exact ⟨down.policy, of_hub hup hstored hdown⟩

end Settled

/-! ## Runs -/

/-- The policies that a policy becomes when it is converted to one version after the other. -/
def Converter.run [Json.FloatReading] (converter : Converter) (policy : AnyPolicy) :
    List ApiVersion → Except ConversionError (List AnyPolicy)
  | [] => .ok []
  | desired :: rest => do
      let result ← converter.convert policy desired
      let later ← converter.run result.policy rest
      return result.policy :: later

theorem Converter.run_cons_eq_ok_iff [Json.FloatReading] {converter : Converter}
    {policy : AnyPolicy} {desired : ApiVersion} {rest : List ApiVersion}
    {policies : List AnyPolicy} :
    converter.run policy (desired :: rest) = .ok policies ↔
      ∃ result later, converter.convert policy desired = .ok result ∧
        converter.run result.policy rest = .ok later ∧ result.policy :: later = policies := by
  rw [run]
  simp only [Except.bind_eq_ok_iff]
  constructor
  · rintro ⟨result, hresult, later, hlater, heq⟩
    exact ⟨result, later, hresult, hlater, Except.ok.inj heq⟩
  · rintro ⟨result, later, hresult, hlater, rfl⟩
    exact ⟨result, hresult, later, hlater, rfl⟩

/-- The policy of a pair that is of a version. -/
def AnyPolicy.ofPair (hub : Hub.Policy) (spoke : Spoke.Policy) : ApiVersion → AnyPolicy
  | .v1 => .hub hub
  | .v2 => .spoke spoke

@[simp] theorem AnyPolicy.version_ofPair (hub : Hub.Policy) (spoke : Spoke.Policy)
    (version : ApiVersion) : (ofPair hub spoke version).version = version := by
  cases version <;> rfl

namespace Settled

variable [Json.FloatReading] {converter : Converter} {hub : Hub.Policy} {spoke : Spoke.Policy}

/-- A conversion does not leave a settled pair. -/
theorem convert (h : Settled hub spoke) (hserves : ∀ version, converter.serves version)
    (current desired : ApiVersion) :
    ∃ result, converter.convert (.ofPair hub spoke current) desired = .ok result ∧
      result.policy = .ofPair hub spoke desired := by
  obtain ⟨down, hdown, rfl⟩ := h.down
  obtain ⟨up, hup, rfl⟩ := h.up
  unfold Converter.convert
  simp only [hserves, Bool.not_true, Bool.false_eq_true, ↓reduceIte]
  cases current <;> cases desired
  case v1.v2 =>
    refine ⟨{ policy := .spoke down.policy, restored := down.restored, stashed := down.stashed },
      ?_, rfl⟩
    simp [AnyPolicy.ofPair, hdown, Except.mapError, Except.map]
  case v2.v1 =>
    refine ⟨{ policy := .hub up.policy, restored := up.restored, stashed := up.stashed }, ?_, rfl⟩
    simp [AnyPolicy.ofPair, hup, Except.mapError, Except.map]
  -- to its own version a policy goes unchanged
  all_goals exact ⟨_, rfl, rfl⟩

theorem reads (h : Settled hub spoke) (version : ApiVersion) :
    (AnyPolicy.ofPair hub spoke version).Reads := by
  cases version with
  | v1 => exact h.hubReads
  | v2 => exact h.spokeReads

/-- A run that starts in a settled pair gives the policies of the pair, as they are asked for. -/
theorem run (h : Settled hub spoke) (hserves : ∀ version, converter.serves version)
    (current : ApiVersion) (versions : List ApiVersion) :
    converter.run (.ofPair hub spoke current) versions =
      .ok (versions.map (.ofPair hub spoke)) := by
  induction versions generalizing current with
  | nil => rfl
  | cons desired rest ih =>
      obtain ⟨result, hresult, hpolicy⟩ := h.convert hserves current desired
      refine Converter.run_cons_eq_ok_iff.mpr
        ⟨result, rest.map (.ofPair hub spoke), hresult, ?_, ?_⟩
      · rw [hpolicy]
        exact ih desired
      · rw [hpolicy, List.map_cons]

end Settled

/-- The first conversion of a policy to the other version ends in a settled pair. -/
theorem Converter.exists_settled [Json.FloatReading] {converter : Converter} {document : Json}
    {source : AnyPolicy} {desired : ApiVersion} {first : Converted AnyPolicy}
    (hfits : document.fits .whole Json.maxDepth)
    (hdocument : AnyPolicy.ofJson document = .ok source) (hwhole : source.metadata.wholePayload)
    (hother : desired ≠ source.version) (hfirst : converter.convert source desired = .ok first) :
    ∃ hub spoke, Settled hub spoke ∧ first.policy = .ofPair hub spoke desired := by
  rcases convert_cases hfirst hother with
    ⟨policy, down, rfl, hdown, rfl⟩ | ⟨policy, up, rfl, hup, rfl⟩
  · have hdesired : desired = .v2 := by cases desired <;> first | rfl | exact absurd rfl hother
    subst hdesired
    have hreads := AnyPolicy.hub_readsIn hfits hdocument
    have hdecode := AnyPolicy.decode_of_ofJson hdocument
    exact ⟨policy, down.policy, Settled.of_hub ⟨document, hdecode⟩ hreads hdown, rfl⟩
  · have hdesired : desired = .v1 := by cases desired <;> first | rfl | exact absurd rfl hother
    subst hdesired
    have hreads := AnyPolicy.spoke_readsIn hfits hdocument
    have hdecode := AnyPolicy.decode_of_ofJson hdocument
    obtain ⟨spoke, hsettled⟩ := Settled.of_spoke ⟨document, hdecode⟩ hreads hwhole hup
    exact ⟨up.policy, spoke, hsettled, rfl⟩

/-- Once a policy has been converted to the other version, every later conversion succeeds, all
policies of one version that come up are the same, and each of them is read back from the document
it is written as. -/
theorem no_drift [Json.FloatReading] {converter : Converter} {document : Json} {source : AnyPolicy}
    {desired : ApiVersion} {first : Converted AnyPolicy}
    (hserves : ∀ version, converter.serves version) (hfits : document.fits .whole Json.maxDepth)
    (hdocument : AnyPolicy.ofJson document = .ok source) (hwhole : source.metadata.wholePayload)
    (hother : desired ≠ source.version) (hfirst : converter.convert source desired = .ok first)
    (versions : List ApiVersion) :
    ∃ later, converter.run source (desired :: versions) = .ok (first.policy :: later) ∧
      later.map AnyPolicy.version = versions ∧
      (∀ policy ∈ first.policy :: later, ∀ other ∈ first.policy :: later,
        policy.version = other.version → policy = other) ∧
      ∀ policy ∈ first.policy :: later, AnyPolicy.ofJson policy.toJson = .ok policy := by
  obtain ⟨hub, spoke, hsettled, hpolicy⟩ :=
    Converter.exists_settled hfits hdocument hwhole hother hfirst
  have hlater := hsettled.run hserves desired versions
  rw [← hpolicy] at hlater
  -- each policy of the run is the one of the pair that its version tells
  have hmember : ∀ policy ∈ first.policy :: versions.map (.ofPair hub spoke),
      policy = .ofPair hub spoke policy.version := by
    intro policy hpolicyMem
    rw [hpolicy, ← List.map_cons] at hpolicyMem
    obtain ⟨version, -, rfl⟩ := List.mem_map.mp hpolicyMem
    rw [AnyPolicy.version_ofPair]
  refine ⟨_, Converter.run_cons_eq_ok_iff.mpr ⟨first, _, hfirst, hlater, rfl⟩, ?_, ?_, ?_⟩
  · simp [Function.comp_def]
  · intro policy hfound other hotherFound hversion
    rw [hmember policy hfound, hmember other hotherFound, hversion]
  · intro policy hfound
    rw [hmember policy hfound]
    exact AnyPolicy.ofJson_toJson (hsettled.reads _)

/-- A spoke that was edited since it was converted, and takes its stash back once. -/
theorem no_drift_edited :
    ∃ source first later,
      AnyPolicy.ofJson (Json.editedSpoke "mutateExistingOnPolicyUpdate") = .ok source ∧
      Converter.both.convert source .v1 = .ok first ∧ first.restored = true ∧
      Converter.both.run source [.v1, .v2, .v1, .v1, .v2] = .ok (first.policy :: later) ∧
      later.map AnyPolicy.version = [.v2, .v1, .v1, .v2] ∧
      (∀ policy ∈ first.policy :: later, ∀ other ∈ first.policy :: later,
        policy.version = other.version → policy = other) ∧
      ∀ policy ∈ first.policy :: later, AnyPolicy.ofJson policy.toJson = .ok policy := by
  have hrun : (Json.editedSpoke "mutateExistingOnPolicyUpdate").spokeConverts fun policy up =>
      policy.metadata.wholePayload && up.restored := by
    decide +kernel
  obtain ⟨policy, up, hdocument, hup, hasked⟩ := Json.exists_of_spokeConverts hrun
  obtain ⟨hwhole, hrestored⟩ := Bool.and_eq_true_iff.mp hasked
  have hserves : ∀ version, Converter.both.serves version := by
    intro version
    cases version <;> decide
  have hother : ApiVersion.v1 ≠ (AnyPolicy.spoke policy).version := by
    simp [AnyPolicy.version]
  have hfirst : Converter.both.convert (.spoke policy) .v1 =
      .ok { policy := .hub up.policy, restored := up.restored, stashed := up.stashed } := by
    change (policy.convert.mapError _).map _ = _
    rw [hup]
    rfl
  obtain ⟨later, hlater, hversions, hsame⟩ := no_drift hserves (by decide +kernel) hdocument
    hwhole hother hfirst [.v2, .v1, .v1, .v2]
  exact ⟨_, _, later, hdocument, hfirst, hrestored, hlater, hversions, hsame⟩

end HubSpoke
