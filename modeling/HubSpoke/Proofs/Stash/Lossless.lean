import HubSpoke.Proofs.Json.Canonical
import HubSpoke.Proofs.Stash.Payload

/-!
# What a payload keeps

A payload is canonical text, and its spec stands one level down in it.  So it keeps the spec and
the annotation it was made of, but for its floats, unless the spec nests as deep as a whole document
may; then the text is not read for any version.

A float that canonical text shows as a whole number is found as that number.  Any other is found as
what the reading makes of its numeral, which is the float itself if the reading finds the nearest
one, and is not promised to be by a reading of less care.
-/

namespace HubSpoke

namespace Stashed

variable {σ : Type} [VersionedSpec σ]

/-- The spec as it stands in a payload. -/
def rendered (stashed : Stashed σ) : Json :=
  VersionedSpec.codec.encode stashed.spec

/-- What a payload is read as, whose spec was decoded from a document, for its own version and for
that of `τ`. -/
structure ReadBack [Json.FloatReading] [HoldsFloats σ] (τ : Type) [VersionedSpec τ]
    (document : Json) (kind : PolicyKind) (stashed : Stashed σ) : Prop where
  found : stashed.rendered.fits .any 126 → decode (stashed.encode kind) =
    .ok (some { stashed with spec := mapFloats Binary64.respelled stashed.spec })
  other : stashed.rendered.fits .any 126 →
    (decode (stashed.encode kind) : Except PayloadFault (Option (Stashed τ))) = .ok none
  tooDeep : ¬ stashed.rendered.fits .any 126 →
    (decode (stashed.encode kind) : Except PayloadFault (Option (Stashed σ))) = .error .notJson ∧
      (decode (stashed.encode kind) : Except PayloadFault (Option (Stashed τ))) = .error .notJson
  /-- A spec that was part of a document is not too deep. -/
  shallow : document.fits .any 126 → stashed.rendered.fits .any 126
  /-- Nothing changes where every float is read as itself. -/
  exact : (∀ x ∈ stashed.rendered.floats, x.respelled = .float x) →
    mapFloats Binary64.respelled stashed.spec = stashed.spec

namespace ReadBack

variable [HoldsFloats σ] {τ : Type} [VersionedSpec τ] {document : Json} {kind : PolicyKind}
  {stashed : Stashed σ}

/-- Nothing is lost of a part of a document whose floats are read as themselves. -/
theorem unchanged [Json.FloatReading] (h : stashed.ReadBack τ document kind)
    (hfits : document.fits .any 126)
    (hkept : ∀ x ∈ stashed.rendered.floats, x.respelled = .float x) :
    decode (stashed.encode kind) = .ok (some stashed) := by
  have hfound := h.found (h.shallow hfits)
  rwa [h.exact hkept] at hfound

/-- The nearest reading changes nothing where canonical text shows no float as a whole number. -/
theorem exact_nearest (h : stashed.ReadBack τ document kind)
    (hfraction : ∀ x ∈ stashed.rendered.floats, ∀ n, x.respelled ≠ .int n) :
    mapFloats Binary64.respelled stashed.spec = stashed.spec :=
  h.exact fun x hx => x.respelled_nearest.resolve_left fun ⟨n, hn⟩ => hfraction x hx n hn

end ReadBack

/-- A payload whose spec nests too deep is not read. -/
theorem parse?_encode_eq_none [Json.FloatReading] {kind : PolicyKind} {stashed : Stashed σ}
    {levels : Nat} (hfits : stashed.rendered.fits .any levels)
    (hdeep : ¬ stashed.rendered.fits .any 126) :
    Json.parse? (stashed.encode kind) = none := by
  rw [encode, toJson_eq]
  refine Json.parse?_canonical_eq_none (fits_members hfits) fun hpayload => hdeep ?_
  have hspec : ("spec", stashed.rendered) ∈ stashed.members kind stashed.rendered := by
    simp [members]
  exact (Json.fits_obj.mp hpayload).2.2 _ hspec

variable [Json.FloatReading] [HoldsFloats σ] [LawfulSpec σ] {τ : Type} [VersionedSpec τ]
  {document : Json} {stashed : Stashed σ}

theorem readBack (hfits : document.fits .any Json.maxDepth)
    (hdecode : (VersionedSpec.codec : Codec σ).decode document = .ok stashed.spec)
    (hother : (VersionedSpec.version σ).name ≠ (VersionedSpec.version τ).name)
    (kind : PolicyKind) : stashed.ReadBack τ document kind := by
  have hagain : (VersionedSpec.codec : Codec σ).decode stashed.rendered = .ok stashed.spec :=
    LawfulSpec.lawful.decode_encode hdecode
  have hrendered : stashed.rendered.fits .any Json.maxDepth := LawfulSpec.lawful.fits hfits hdecode
  refine ⟨decode_encode hagain, fun hshallow => decode_encode_other hagain hshallow hother,
    fun hdeep => ?_, fun hshallow => LawfulSpec.lawful.fits hshallow hdecode, fun hkept => ?_⟩
  · have hunread : Json.parse? (stashed.encode kind) = none :=
      parse?_encode_eq_none hrendered hdeep
    rw [decode, decode, hunread]
    exact ⟨rfl, rfl⟩
  · have hchanged := LawfulSpec.lawful.redecode Binary64.numeric_respelled hdecode
    change VersionedSpec.codec.decode (stashed.rendered.mapFloats _) = _ at hchanged
    rw [Json.mapFloats_eq_self_of_floats hkept, hagain] at hchanged
    exact (Except.ok.inj hchanged).symm

end Stashed

/-- However floats are read, a payload made of a decoded spec of either version holds that spec for
its own version, each float replaced by what its canonical text is read as, and nothing for the
other version.  If it nests too deep, as the spec of a policy that was read cannot, it is not read
for either. -/
theorem payload_read_back [Json.FloatReading] :
    (∀ {document : Json} {stashed : Stashed Hub.Spec}, document.fits .any Json.maxDepth →
      Hub.Spec.codec.decode document = .ok stashed.spec →
        ∀ kind, stashed.ReadBack Spoke.Spec document kind) ∧
    (∀ {document : Json} {stashed : Stashed Spoke.Spec}, document.fits .any Json.maxDepth →
      Spoke.Spec.codec.decode document = .ok stashed.spec →
        ∀ kind, stashed.ReadBack Hub.Spec document kind) :=
  ⟨fun hfits hdecode => Stashed.readBack hfits hdecode (by decide),
    fun hfits hdecode => Stashed.readBack hfits hdecode (by decide)⟩

/-- A spec with a rule whose preconditions compare with a given number. -/
def Json.comparingSpec (value : Json) : Json :=
  .obj [("rules", .arr [.obj [("name", .str "sample"),
    ("preconditions", .obj [("any", .arr [.obj [("key", .str "a"), ("operator", .str "Equals"),
      ("value", value)]])])]])]

/-- The number 1/2, which canonical text shows with a point. -/
def Binary64.half : Binary64 := ⟨false, Nat.pow 2 52, -53, by decide⟩

/-- The number 2⁶³, which canonical text shows as a whole number of 64 bits, and another one. -/
def Binary64.wholeFloat : Binary64 := ⟨false, Nat.pow 2 52, 11, by decide⟩

theorem payload_read_back_half :
    (∃ stashed : Stashed Hub.Spec, stashed.sourceAnnotation = some "carried" ∧
      stashed.rendered.floats = [.half] ∧
      Stashed.decode (stashed.encode .policy) = .ok (some stashed)) ∧
    (∃ stashed : Stashed Spoke.Spec, stashed.sourceAnnotation = some "carried" ∧
      stashed.rendered.floats = [.half] ∧
      Stashed.decode (stashed.encode .policy) = .ok (some stashed)) := by
  have hfits : (Json.comparingSpec (.float .half)).fits .any 126 := by decide +kernel
  have hdocument := Json.fits_mono hfits (by decide : 126 ≤ Json.maxDepth)
  have hkept : Binary64.half.respelled = .float .half := by decide +kernel
  constructor
  · have hrun : (Hub.Spec.codec.decode (.comparingSpec (.float .half))).any fun spec =>
        decide ((⟨spec, some "carried"⟩ : Stashed Hub.Spec).rendered.floats = [.half]) := by
      decide +kernel
    obtain ⟨spec, hdecode, hasked⟩ := Except.any_iff.mp hrun
    have hfloats := of_decide_eq_true hasked
    have hback : (⟨spec, some "carried"⟩ : Stashed Hub.Spec).ReadBack Spoke.Spec
        (.comparingSpec (.float .half)) .policy := payload_read_back.1 hdocument hdecode .policy
    refine ⟨_, rfl, hfloats, hback.unchanged hfits ?_⟩
    simpa only [hfloats, List.forall_mem_singleton] using hkept
  · have hrun : (Spoke.Spec.codec.decode (.comparingSpec (.float .half))).any fun spec =>
        decide ((⟨spec, some "carried"⟩ : Stashed Spoke.Spec).rendered.floats = [.half]) := by
      decide +kernel
    obtain ⟨spec, hdecode, hasked⟩ := Except.any_iff.mp hrun
    have hfloats := of_decide_eq_true hasked
    have hback : (⟨spec, some "carried"⟩ : Stashed Spoke.Spec).ReadBack Hub.Spec
        (.comparingSpec (.float .half)) .policy := payload_read_back.2 hdocument hdecode .policy
    refine ⟨_, rfl, hfloats, hback.unchanged hfits ?_⟩
    simpa only [hfloats, List.forall_mem_singleton] using hkept

/-- A float that canonical text shows as a whole number is found as another number. -/
theorem payload_changes_float :
    ∃ stashed found : Stashed Hub.Spec,
      (Json.comparingSpec (.float .wholeFloat)).fits .any Json.maxDepth ∧
      Hub.Spec.codec.decode (.comparingSpec (.float .wholeFloat)) = .ok stashed.spec ∧
      Stashed.decode (stashed.encode .policy) = .ok (some found) ∧
      Hub.Spec.codec.decode (.comparingSpec (.int 9223372036854776000)) = .ok found.spec ∧
      found ≠ stashed := by
  have hfits : (Json.comparingSpec (.float .wholeFloat)).fits .any 126 := by decide +kernel
  have hrun : (Hub.Spec.codec.decode (.comparingSpec (.float .wholeFloat))).any fun spec =>
      decide (mapFloats Binary64.respelled spec ≠ spec ∧
        Hub.Spec.codec.decode (.comparingSpec (.int 9223372036854776000)) =
          .ok (mapFloats Binary64.respelled spec)) := by
    decide +kernel
  obtain ⟨spec, hdecode, hasked⟩ := Except.any_iff.mp hrun
  obtain ⟨hchanged, hother⟩ := of_decide_eq_true hasked
  exact ⟨⟨spec, none⟩, _, Json.fits_mono hfits (by decide), hdecode,
    Stashed.decode_encode hdecode hfits, hother, fun heq => hchanged (congrArg Stashed.spec heq)⟩

end HubSpoke
