import HubSpoke.Proofs.Conversion.Steps
import HubSpoke.Proofs.Stash.Payload

/-!
# Conversions do not ask who a policy is

A policy is who it is, what it asks for, and the annotation it carries.  A conversion passes on the
first and works with the other two: it is the same under every identity, with its errors, with the
comparisons that decide what is stashed, and with the comparison that finds a spoke unedited.

`Policy.under` puts a policy under another identity, and `convert_under` says that this may be done
before a conversion or after it.  Under its own identity a policy is what it was, so what a
conversion gives is under the identity of its source.
-/

namespace HubSpoke

/-! ## Who a policy is -/

namespace Metadata

variable {metadata : Metadata} {payload other : Option String}

/-- The metadata with the reserved annotation of another object, if that has one. -/
def carrying (metadata : Metadata) : Option String → Metadata
  | some payload => metadata.withPayload payload
  | none => metadata.withoutPayload

@[simp] theorem carrying_some (payload : String) :
    metadata.carrying (some payload) = metadata.withPayload payload := rfl

@[simp] theorem carrying_none : metadata.carrying none = metadata.withoutPayload := rfl

@[simp] theorem payload?_carrying : (metadata.carrying payload).payload? = payload := by
  cases payload <;> simp

@[simp] theorem withoutPayload_carrying :
    (metadata.carrying payload).withoutPayload = metadata.withoutPayload := by
  cases payload <;> simp

theorem carrying_payload? : metadata.withoutPayload.carrying metadata.payload? = metadata := by
  cases hpayload : metadata.payload? with
  | none => rw [carrying_none, withoutPayload_withoutPayload, withoutPayload_eq_self hpayload]
  | some payload => exact withPayload_withoutPayload hpayload

/-- The data of metadata tells its annotation. -/
theorem unsigned_carrying_iff :
    unsigned (metadata.carrying payload) = unsigned (metadata.carrying other) ↔
      payload = other := by
  constructor
  · intro hdata
    have hpayload : (metadata.carrying payload).payload? = (metadata.carrying other).payload? :=
      (congrArg payload? hdata :)
    simpa using hpayload
  · rintro rfl
    rfl

end Metadata

/-- Who a policy is: its kind, its metadata but for the reserved annotation, and its status. -/
@[ext]
structure Identity where
  kind : PolicyKind
  metadata : Metadata
  status : Option Json
  unreserved : metadata.payload? = none

namespace Identity

@[simp] theorem withoutPayload_metadata (who : Identity) :
    who.metadata.withoutPayload = who.metadata :=
  Metadata.withoutPayload_eq_self who.unreserved

theorem withoutPayload_carrying (who : Identity) (payload : Option String) :
    (who.metadata.carrying payload).withoutPayload = who.metadata := by
  rw [Metadata.withoutPayload_carrying, withoutPayload_metadata]

end Identity

namespace Hub.Policy

variable {policy other : Policy} {who : Identity}

/-- Who the policy is. -/
def identity (policy : Policy) : Identity where
  kind := policy.kind
  metadata := policy.metadata.withoutPayload
  status := policy.status
  unreserved := policy.metadata.payload?_withoutPayload

/-- The policy as that of another identity. -/
def under (policy : Policy) (who : Identity) : Policy where
  kind := who.kind
  metadata := who.metadata.carrying policy.metadata.payload?
  spec := policy.spec
  status := who.status

@[simp] theorem payload?_under :
    (policy.under who).metadata.payload? = policy.metadata.payload? :=
  Metadata.payload?_carrying

@[simp] theorem withoutPayload_under :
    (policy.under who).metadata.withoutPayload = who.metadata :=
  who.withoutPayload_carrying _

theorem identity_under : (policy.under who).identity = who :=
  Identity.ext rfl withoutPayload_under rfl

theorem under_identity : policy.under policy.identity = policy := by
  rw [under, identity, Metadata.carrying_payload?]

/-- A policy is any other of its spec and annotation under its own identity. -/
theorem eq_under (hspec : policy.spec = other.spec)
    (hpayload : policy.metadata.payload? = other.metadata.payload?) :
    policy = other.under policy.identity := by
  calc policy = policy.under policy.identity := under_identity.symm
    _ = other.under policy.identity := by rw [under, under, hspec, hpayload]

/-- Policies of one identity hold the same data when their specs and annotations do. -/
theorem sameData_under : sameData (policy.under who) (other.under who) =
    (sameData policy.spec other.spec &&
      decide (policy.metadata.payload? = other.metadata.payload?)) := by
  rw [sameData, sameData, ← Bool.decide_and]
  refine decide_eq_decide.mpr ((Policy.mk.injEq ..).to_iff.trans ?_)
  exact ⟨fun ⟨_, hmetadata, hspec, _⟩ => ⟨hspec, Metadata.unsigned_carrying_iff.mp hmetadata⟩,
    fun ⟨hspec, hpayload⟩ => ⟨rfl, Metadata.unsigned_carrying_iff.mpr hpayload, hspec, rfl⟩⟩

/-- Whether two policies of one identity hold the same data does not depend on the identity. -/
theorem sameData_under_both (h : policy.identity = other.identity) :
    sameData (policy.under who) (other.under who) = sameData policy other := by
  calc sameData (policy.under who) (other.under who)
      = sameData (policy.under other.identity) (other.under other.identity) := by
        rw [sameData_under, sameData_under]
    _ = sameData policy other := by rw [← h, under_identity, h, under_identity]

end Hub.Policy

namespace Spoke.Policy

variable {policy other : Policy} {who : Identity}

/-- Who the policy is. -/
def identity (policy : Policy) : Identity where
  kind := policy.kind
  metadata := policy.metadata.withoutPayload
  status := policy.status
  unreserved := policy.metadata.payload?_withoutPayload

/-- The policy as that of another identity. -/
def under (policy : Policy) (who : Identity) : Policy where
  kind := who.kind
  metadata := who.metadata.carrying policy.metadata.payload?
  spec := policy.spec
  status := who.status

@[simp] theorem payload?_under :
    (policy.under who).metadata.payload? = policy.metadata.payload? :=
  Metadata.payload?_carrying

@[simp] theorem withoutPayload_under :
    (policy.under who).metadata.withoutPayload = who.metadata :=
  who.withoutPayload_carrying _

theorem identity_under : (policy.under who).identity = who :=
  Identity.ext rfl withoutPayload_under rfl

theorem under_identity : policy.under policy.identity = policy := by
  rw [under, identity, Metadata.carrying_payload?]

/-- A policy is any other of its spec and annotation under its own identity. -/
theorem eq_under (hspec : policy.spec = other.spec)
    (hpayload : policy.metadata.payload? = other.metadata.payload?) :
    policy = other.under policy.identity := by
  calc policy = policy.under policy.identity := under_identity.symm
    _ = other.under policy.identity := by rw [under, under, hspec, hpayload]

/-- Policies of one identity hold the same data when their specs and annotations do. -/
theorem sameData_under : sameData (policy.under who) (other.under who) =
    (sameData policy.spec other.spec &&
      decide (policy.metadata.payload? = other.metadata.payload?)) := by
  rw [sameData, sameData, ← Bool.decide_and]
  refine decide_eq_decide.mpr ((Policy.mk.injEq ..).to_iff.trans ?_)
  exact ⟨fun ⟨_, hmetadata, hspec, _⟩ => ⟨hspec, Metadata.unsigned_carrying_iff.mp hmetadata⟩,
    fun ⟨hspec, hpayload⟩ => ⟨rfl, Metadata.unsigned_carrying_iff.mpr hpayload, hspec, rfl⟩⟩

/-- Whether two policies of one identity hold the same data does not depend on the identity. -/
theorem sameData_under_both (h : policy.identity = other.identity) :
    sameData (policy.under who) (other.under who) = sameData policy other := by
  calc sameData (policy.under who) (other.under who)
      = sameData (policy.under other.identity) (other.under other.identity) := by
        rw [sameData_under, sameData_under]
    _ = sameData policy other := by rw [← h, under_identity, h, under_identity]

end Spoke.Policy

/-! ## Conversions under another identity -/

/-- The conversion with another policy in place of what it gave. -/
def Converted.map {π ρ : Type} (f : π → ρ) (result : Converted π) : Converted ρ where
  policy := f result.policy
  restored := result.restored
  stashed := result.stashed

/-- A conversion that a change of its policy does not change gives a policy without that change. -/
theorem Converted.policy_eq_of_map {ε π : Type} {conversion : Except ε (Converted π)} {f : π → π}
    {result : Converted π} (hself : conversion = Converted.map f <$> conversion)
    (hresult : conversion = .ok result) : result.policy = f result.policy := by
  rw [hresult] at hself
  exact congrArg Converted.policy (Except.ok.inj hself)

/-- What is found in a stash depends on the annotation only. -/
theorem Metadata.stashed_congr [Json.FloatReading] {σ : Type} [VersionedSpec σ]
    {metadata other : Metadata} (h : metadata.payload? = other.payload?) :
    (metadata.stashed : Except PayloadFault (Option (Stashed σ))) = other.stashed := by
  rw [stashed, stashed, h]

theorem Spoke.Policy.mapToHub_under {policy : Policy} {who : Identity}
    (hkind : who.kind = policy.kind) (saved : Option Hub.Spec) :
    (policy.under who).mapToHub who.metadata saved =
      Converted.map (·.under who) <$> policy.mapToHub policy.metadata.withoutPayload saved := by
  have hlaid : (policy.under who).laidOver saved = policy.laidOver saved := by
    cases saved <;> rfl
  rw [mapToHub_eq, mapToHub_eq, hlaid, map_bind]
  refine bind_congr fun spec => ?_
  rw [map_bind]
  refine bind_congr fun again => ?_
  rw [map_pure]
  cases hsame : sameData again policy.spec <;>
    simp [Converted.map, under, Hub.Policy.under, hsame, hkind, Metadata.stash_eq]

/-- What a spoke is mapped to is under the identity of the spoke. -/
theorem Spoke.Policy.identity_mapToHub {policy : Policy} {saved : Option Hub.Spec}
    {result : Converted Hub.Policy}
    (h : policy.mapToHub policy.metadata.withoutPayload saved = .ok result) :
    result.policy.identity = policy.identity := by
  have hself := @mapToHub_under policy policy.identity rfl saved
  rw [under_identity] at hself
  rw [Converted.policy_eq_of_map hself h, Hub.Policy.identity_under]

namespace Hub.Policy

variable {policy : Policy} {who : Identity} {result : Converted Spoke.Policy}

theorem withoutPayload_unstashed (spec : Spoke.Spec) :
    (policy.unstashed spec).metadata.withoutPayload = policy.metadata.withoutPayload :=
  policy.metadata.withoutPayload_withoutPayload

theorem identity_unstashed (spec : Spoke.Spec) :
    (policy.unstashed spec).identity = policy.identity :=
  Identity.ext rfl (withoutPayload_unstashed spec) rfl

theorem unstashed_under (spec : Spoke.Spec) :
    (policy.under who).unstashed spec = (policy.unstashed spec).under who := by
  simp [unstashed, under, Spoke.Policy.under]

theorem stashedUnder_under (hkind : who.kind = policy.kind) (spec : Spoke.Spec) :
    (policy.under who).stashedUnder spec = (policy.stashedUnder spec).under who := by
  simp [stashedUnder, unstashed, under, Spoke.Policy.under, Metadata.stash_eq, hkind]

/-- The way back without a stash, on which it depends whether anything is lost. -/
theorem mapToHub_unstashed_under (hkind : who.kind = policy.kind) (spec : Spoke.Spec) :
    ((policy.unstashed spec).under who).mapToHub who.metadata none = Converted.map (·.under who) <$>
      (policy.unstashed spec).mapToHub policy.metadata.withoutPayload none := by
  rw [← withoutPayload_unstashed spec]
  exact Spoke.Policy.mapToHub_under hkind none

variable [Json.FloatReading]

/-- A hub may be put under another identity before it is converted or after. -/
theorem convert_under (hkind : who.kind = policy.kind) :
    (policy.under who).convert = Converted.map (·.under who) <$> policy.convert := by
  have hstashed : ((policy.under who).metadata.stashed :
      Except PayloadFault (Option (Stashed Spoke.Spec))) = policy.metadata.stashed :=
    Metadata.stashed_congr payload?_under
  rw [convert_eq, convert_eq, hstashed, map_bind]
  refine bind_congr fun restored => ?_
  rw [map_bind]
  refine bind_congr fun fresh => ?_
  have hlaid : (policy.under who).laidOver restored fresh = policy.laidOver restored fresh := by
    cases restored <;> rfl
  dsimp only
  rw [hlaid, withoutPayload_under, unstashed_under, stashedUnder_under hkind,
    mapToHub_unstashed_under hkind]
  generalize policy.laidOver restored fresh = spec
  cases hplain : (policy.unstashed spec).mapToHub policy.metadata.withoutPayload none with
  | error cause => rfl
  | ok plain =>
      -- both comparisons are of two policies of one identity
      have hwho : plain.policy.identity = policy.identity := by
        rw [← withoutPayload_unstashed spec] at hplain
        exact (Spoke.Policy.identity_mapToHub hplain).trans (identity_unstashed spec)
      have hsame := @sameData_under_both _ _ who hwho
      refine congrArg Except.ok ?_
      change Converted.mk (if sameData (plain.policy.under who) (policy.under who) then _ else _) _
        (!sameData (plain.policy.under who) (policy.under who)) = _
      rw [hsame]
      cases sameData plain.policy policy <;> rfl

theorem identity_convert (h : policy.convert = .ok result) :
    result.policy.identity = policy.identity := by
  have hself := @convert_under policy policy.identity _ rfl
  rw [under_identity] at hself
  rw [Converted.policy_eq_of_map hself h, Spoke.Policy.identity_under]

end Hub.Policy

namespace Spoke.Policy

variable {policy : Policy} {who : Identity} {result : Converted Hub.Policy}

theorem stashedHub_eq (saved : Stashed Hub.Spec) :
    policy.stashedHub saved = {
      kind := policy.kind
      metadata := policy.metadata.withoutPayload.carrying saved.sourceAnnotation
      spec := saved.spec
      status := policy.status } := by
  cases hcarried : saved.sourceAnnotation with
  | none => simp [stashedHub, hcarried]
  | some carried => simp [stashedHub, hcarried, Metadata.withPayload]

theorem stashedHub_under (saved : Stashed Hub.Spec) :
    (policy.under who).stashedHub saved = (policy.stashedHub saved).under who := by
  rw [stashedHub_eq, stashedHub_eq, Hub.Policy.under, withoutPayload_under,
    Metadata.payload?_carrying]
  rfl

theorem identity_stashedHub (saved : Stashed Hub.Spec) :
    (policy.stashedHub saved).identity = policy.identity := by
  rw [stashedHub_eq]
  exact Identity.ext rfl (by simp [Hub.Policy.identity, identity]) rfl

variable [Json.FloatReading]

theorem unedited?_under (hkind : who.kind = policy.kind) (saved : Stashed Hub.Spec) :
    (policy.under who).unedited? saved = Option.map (·.under who) <$> policy.unedited? saved := by
  rw [unedited?, unedited?, stashedHub_under, Hub.Policy.convert_under hkind]
  cases hconverted : (policy.stashedHub saved).convert with
  | error cause => rfl
  | ok converted =>
      have hwho := (Hub.Policy.identity_convert hconverted).trans (identity_stashedHub saved)
      have hsame := @sameData_under_both _ _ who hwho
      refine congrArg Except.ok ?_
      change (if sameData (converted.policy.under who) (policy.under who) then _ else _) = _
      rw [hsame]
      cases sameData converted.policy policy <;> rfl

/-- A spoke may be put under another identity before it is converted or after. -/
theorem convert_under (hkind : who.kind = policy.kind) :
    (policy.under who).convert = Converted.map (·.under who) <$> policy.convert := by
  have hstashed : ((policy.under who).metadata.stashed :
      Except PayloadFault (Option (Stashed Hub.Spec))) = policy.metadata.stashed :=
    Metadata.stashed_congr payload?_under
  rw [convert, convert, hstashed, withoutPayload_under, map_bind]
  refine bind_congr fun restored => ?_
  cases restored with
  | none => exact mapToHub_under hkind none
  | some saved =>
      dsimp only
      rw [unedited?_under hkind, map_bind]
      cases policy.unedited? saved with
      | error fault => rfl
      | ok former =>
          cases former with
          | none => exact mapToHub_under hkind (some saved.spec)
          | some former => rfl

theorem identity_convert (h : policy.convert = .ok result) :
    result.policy.identity = policy.identity := by
  have hself := @convert_under policy policy.identity _ rfl
  rw [under_identity] at hself
  rw [Converted.policy_eq_of_map hself h, Hub.Policy.identity_under]

end Spoke.Policy

/-! ## Two conversions -/

/-- A conversion that is another with its policy changed fails with that one's error, or gives what
that one gives but for the policy. -/
theorem Converted.alike_of_map {ε π : Type} {conversion other : Except ε (Converted π)} {f : π → π}
    (h : other = Converted.map f <$> conversion) :
    (∃ cause, conversion = .error cause ∧ other = .error cause) ∨
      ∃ one, conversion = .ok one ∧ other = .ok (one.map f) := by
  subst h
  cases conversion with
  | error cause => exact .inl ⟨cause, rfl, rfl⟩
  | ok one => exact .inr ⟨one, rfl, rfl⟩

/-- Conversions of policies that differ in their other metadata and their status only fail with one
error, or succeed with one spec, one annotation and the same flags; and what each gives has the
identity of its source. -/
theorem identity_not_read [Json.FloatReading] :
    (∀ first second : Hub.Policy, second.kind = first.kind → second.spec = first.spec →
      second.metadata.payload? = first.metadata.payload? →
      (∃ cause, first.convert = .error cause ∧ second.convert = .error cause) ∨
      ∃ one two, first.convert = .ok one ∧ second.convert = .ok two ∧
        two.policy.spec = one.policy.spec ∧
        two.policy.metadata.payload? = one.policy.metadata.payload? ∧
        two.restored = one.restored ∧ two.stashed = one.stashed ∧
        one.policy.identity = first.identity ∧ two.policy.identity = second.identity) ∧
    (∀ first second : Spoke.Policy, second.kind = first.kind → second.spec = first.spec →
      second.metadata.payload? = first.metadata.payload? →
      (∃ cause, first.convert = .error cause ∧ second.convert = .error cause) ∨
      ∃ one two, first.convert = .ok one ∧ second.convert = .ok two ∧
        two.policy.spec = one.policy.spec ∧
        two.policy.metadata.payload? = one.policy.metadata.payload? ∧
        two.restored = one.restored ∧ two.stashed = one.stashed ∧
        one.policy.identity = first.identity ∧ two.policy.identity = second.identity) := by
  constructor
  · intro first second hkind hspec hpayload
    have hsecond : second = first.under second.identity := Hub.Policy.eq_under hspec hpayload
    have hconvert := @Hub.Policy.convert_under first second.identity _ hkind
    rw [← hsecond] at hconvert
    refine (Converted.alike_of_map hconvert).imp_right ?_
    rintro ⟨one, hone, htwo⟩
    exact ⟨one, _, hone, htwo, rfl, Spoke.Policy.payload?_under, rfl, rfl,
      Hub.Policy.identity_convert hone, Hub.Policy.identity_convert htwo⟩
  · intro first second hkind hspec hpayload
    have hsecond : second = first.under second.identity := Spoke.Policy.eq_under hspec hpayload
    have hconvert := @Spoke.Policy.convert_under first second.identity _ hkind
    rw [← hsecond] at hconvert
    refine (Converted.alike_of_map hconvert).imp_right ?_
    rintro ⟨one, hone, htwo⟩
    exact ⟨one, _, hone, htwo, rfl, Hub.Policy.payload?_under, rfl, rfl,
      Spoke.Policy.identity_convert hone, Spoke.Policy.identity_convert htwo⟩

/-- A hub that does not convert without a stash, with labels and a status that tell its name. -/
def Hub.Policy.flagged (name : String) : Hub.Policy where
  kind := .clusterPolicy
  metadata := { name, labels := .ofList [("name", name)] }
  spec := { schemaValidation := some true }
  status := some (.obj [("name", .str name)])

theorem identity_not_read_flagged :
    ∃ one two back other, (Hub.Policy.flagged "one").convert = .ok one ∧
      (Hub.Policy.flagged "two").convert = .ok two ∧
      two.policy.metadata.payload? = one.policy.metadata.payload? ∧ two.stashed = true ∧
      one.policy.convert = .ok back ∧ two.policy.convert = .ok other ∧
      other.policy.spec = back.policy.spec ∧ other.restored = true ∧
      other.policy.identity = (Hub.Policy.flagged "two").identity := by
  have hrun : (Hub.Policy.flagged "one").convert.any fun one =>
      one.stashed && one.policy.convert.any Converted.restored := by
    decide +kernel
  obtain ⟨one, hone, hasked⟩ := Except.any_iff.mp hrun
  obtain ⟨hstashed, hback⟩ := Bool.and_eq_true_iff.mp hasked
  obtain ⟨back, hback, hrestored⟩ := Except.any_iff.mp hback
  -- first the hubs, then the spokes they convert to
  rcases identity_not_read.1 (.flagged "one") (.flagged "two") rfl rfl rfl with
    ⟨cause, hcause, -⟩ | ⟨_, two, hone', htwo, hspec, hpayload, -, hflag, hidentity, hother⟩
  · cases hone.symm.trans hcause
  obtain rfl := Except.ok.inj (hone.symm.trans hone')
  have hkind : two.policy.kind = one.policy.kind := by
    calc two.policy.kind = two.policy.identity.kind := rfl
      _ = one.policy.identity.kind := by rw [hother, hidentity]; rfl
  rcases identity_not_read.2 one.policy two.policy hkind hspec hpayload with
    ⟨cause, hcause, -⟩ | ⟨_, other, hback', hotherBack, hback'', -, hrestored', -, -, hsame⟩
  · cases hback.symm.trans hcause
  obtain rfl := Except.ok.inj (hback.symm.trans hback')
  exact ⟨one, two, back, other, hone, htwo, hpayload, hflag.trans hstashed, hback, hotherBack,
    hback'', hrestored'.trans hrestored, hsame.trans hother⟩

end HubSpoke
