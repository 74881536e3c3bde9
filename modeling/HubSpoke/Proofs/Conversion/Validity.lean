import HubSpoke.Proofs.Conversion.Precedence
import HubSpoke.Proofs.Stash.Payload
import HubSpoke.Proofs.Validation.Spoke

/-!
# Valid policies seen through the other version

A valid policy without a stash converts to one that is well formed.  What may be held against it is
only that it rewrites digests while failures are reported: the hub has one failure action for all of
its rules, and it reaches the spoke, or comes from it, through rules that validate.  So the action
of a hub without such rules is not handed on, and of a spoke only that of the last such rule is.
-/

namespace HubSpoke

/-! ## Actions that are handed on -/

/-- The failure action that the other version receives: that of the policy, if a rule validates. -/
def Hub.Spec.handedOnAction (spec : Spec) : Option FailureAction :=
  if spec.rules.any fun rule => rule.validation.isSome then spec.validationFailureAction else none

/-- The failure action that the other version receives: of a spoke, that of the last rule that
validates. -/
def AnyPolicy.handedOnAction : AnyPolicy → Option FailureAction
  | .hub policy => policy.spec.handedOnAction
  | .spoke policy => (Routed.ofSpoke policy.spec).action

namespace Hub.Spec

variable {spec : Spec} {fresh : Spoke.Spec}

/-- The rules of a mapped spec supply the action that the hub hands on. -/
theorem action_ofSpoke (hfresh : spec.toSpoke = .ok fresh) :
    (Routed.ofSpoke fresh).action = spec.handedOnAction := by
  rw [handedOnAction]
  split
  case isTrue hvalidates =>
    obtain ⟨rule, hrule, hblock⟩ := List.any_eq_true.mp hvalidates
    have hkind : rule.kind = .validate := RuleKind.ofBlocks_eq_validate_iff.mpr hblock
    have hvalues := only_ofSpoke hfresh hrule
    rw [hkind] at hvalues
    exact congrArg Routed.action hvalues
  case isFalse hnone =>
    have hkinds : ∀ rule ∈ spec.rules, rule.kind ≠ .validate := fun rule hrule hkind =>
      hnone (List.any_eq_true.mpr
        ⟨rule, hrule, RuleKind.ofBlocks_eq_validate_iff.mp hkind⟩)
    exact congrArg Routed.action (only_ofSpoke_of_forall_ne hfresh hkinds)

/-- A rule of a mapped spec carries what the hub holds for its kind. -/
theorem exists_ofRule_toSpoke (hfresh : spec.toSpoke = .ok fresh) {rule : Spoke.Rule}
    (hrule : rule ∈ fresh.rules) :
    ∃ original, (original ∈ spec.rules ∧ original.kind = rule.kind) ∧
      Routed.ofRule rule = (Routed.ofHub spec).only rule.kind := by
  obtain ⟨typed, htyped, rfl⟩ := toSpoke_eq_ok_iff.mp hfresh
  obtain ⟨x, hx, rfl⟩ := List.mem_map.mp hrule
  obtain ⟨original, horiginal, hmaps⟩ := List.exists_of_forall₂_right htyped hx
  rw [Routed.kind_routeInto]
  exact ⟨original, ⟨horiginal, hmaps.kind.symm⟩, Routed.ofRule_routeInto _ hmaps.ofRule_eq⟩

/-- Every rule of a mapped spec is evaluated with the action that the hub hands on. -/
theorem effectiveAction_toSpoke (hfresh : spec.toSpoke = .ok fresh) {rule : Spoke.Rule}
    (hrule : rule ∈ fresh.rules) : fresh.effectiveAction rule = spec.handedOnAction := by
  rw [Spoke.Spec.effectiveAction, ← action_ofSpoke hfresh]
  cases hblock : rule.validation with
  | none => rfl
  | some block =>
      -- the rule carries the action of the hub, which is then the one supplied
      have hkind : rule.kind = .validate :=
        RuleKind.ofBlocks_eq_validate_iff.mpr (by simp [hblock])
      obtain ⟨original, horiginal, hvalues⟩ := exists_ofRule_toSpoke hfresh hrule
      have hsupplied := only_ofSpoke hfresh horiginal.1
      rw [horiginal.2, hkind] at hsupplied
      rw [hkind] at hvalues
      calc block.action = (Routed.ofRule rule).action := by simp [Routed.ofRule, hblock]
        _ = ((Routed.ofHub spec).only .validate).action := congrArg Routed.action hvalues
        _ = (Routed.ofSpoke fresh).action := (congrArg Routed.action hsupplied).symm

end Hub.Spec

/-! ## Well-formed policies -/

/-- A policy is as well formed as another that it shares its outline with and whose rules are. -/
theorem Hub.Policy.WellFormed.of_rules {policy other : Policy} {scope : ResourceScope}
    (h : policy.WellFormed scope) (hkind : other.kind = policy.kind)
    (hname : other.metadata.name = policy.metadata.name)
    (hnamespace : other.metadata.namespaceName = policy.metadata.namespaceName)
    (hadmission : other.spec.admission = policy.spec.admission)
    (hbackground : other.spec.background = policy.spec.background)
    (htimeout : other.spec.webhookTimeoutSeconds = policy.spec.webhookTimeoutSeconds)
    (hnames : other.spec.rules.map Rule.name = policy.spec.rules.map Rule.name)
    (hrules : ∀ rule ∈ other.spec.rules, rule.WellFormed (policy.matchContext scope)) :
    other.WellFormed scope := by
  have hown : other.metadata.ownNamespace? = policy.metadata.ownNamespace? := by
    rw [Metadata.ownNamespace?, hnamespace, Metadata.ownNamespace?]
  have hcontext : other.matchContext scope = policy.matchContext scope := by
    simp only [matchContext, hkind, hown, hbackground]
  refine ⟨⟨hname ▸ h.name, ?_, ?_, htimeout ▸ h.timeout, ?_, hnames ▸ h.names,
    hnames ▸ h.distinct⟩, hcontext ▸ hrules⟩
  · rw [hkind, hown]
    exact h.namespaceName
  · rw [hadmission, hbackground]
    exact h.processing
  · intro hempty
    rw [hempty] at hnames
    exact h.nonempty (List.map_eq_nil_iff.mp hnames.symm)

/-! ## From the hub -/

namespace Hub.Policy

variable {policy : Policy} {result : Converted Spoke.Policy} {scope : ResourceScope}

theorem wellFormed_of_findings (h : policy.findings scope = []) : policy.WellFormed scope :=
  wellFormed_view_iff.mp (PolicyView.findings_eq_nil_iff.mp h).1

variable [Json.FloatReading]

/-- What a hub without a stash converts to: its mapped spec, in place of its own. -/
theorem convert_unreserved (hreserved : policy.metadata.payload? = none)
    (hconvert : policy.convert = .ok result) :
    policy.spec.toSpoke = .ok result.policy.spec ∧ result.policy.kind = policy.kind ∧
      result.policy.metadata.name = policy.metadata.name ∧
      result.policy.metadata.namespaceName = policy.metadata.namespaceName := by
  obtain ⟨restored, fresh, plain, hrestored, hfresh, -, rfl⟩ := convert_eq_ok_iff.mp hconvert
  rw [Metadata.stashed_of_payload?_eq_none hreserved] at hrestored
  obtain rfl := Except.ok.inj hrestored
  cases sameData plain.policy policy <;> exact ⟨hfresh, rfl, rfl, rfl⟩

/-- The spoke of a well-formed hub is well formed, and its rules rewrite digests where those of the
hub do. -/
theorem WellFormed.convert (h : policy.WellFormed scope)
    (hreserved : policy.metadata.payload? = none) (hconvert : policy.convert = .ok result) :
    result.policy.toHub.WellFormed scope ∧
      ((∃ rule ∈ result.policy.toHub.spec.rules, rule.MutatesDigests) ↔
        ∃ rule ∈ policy.spec.rules, rule.MutatesDigests) := by
  obtain ⟨hfresh, hkind, hname, hnamespace⟩ := convert_unreserved hreserved hconvert
  have hmaps := Spec.toSpoke_stripped hfresh
  obtain ⟨typed, -, hspec⟩ := Spec.toSpoke_eq_ok_iff.mp hfresh
  have hnames : result.policy.toHub.spec.rules.map Rule.name = policy.spec.rules.map Rule.name :=
    List.map_map.trans (Spec.names_toSpoke hfresh)
  -- routed values and overrides, which mapping laid over the rules, are not looked at
  constructor
  · refine h.of_rules hkind hname hnamespace ?_ ?_ ?_ hnames ?_
    · exact (congrArg Spoke.Spec.admission hspec).symm
    · exact (congrArg Spoke.Spec.background hspec).symm
    · exact (congrArg Spoke.Spec.webhookTimeoutSeconds hspec).symm
    · refine List.forall_mem_map.mpr fun current hcurrent => ?_
      obtain ⟨rule, hrule, hmapped⟩ := List.exists_of_forall₂_right hmaps hcurrent
      rw [← Spoke.Rule.toHub_stripped]
      exact hmapped.wellFormed (h.rules rule hrule)
  · constructor
    · rintro ⟨_, hmem, hdigests⟩
      obtain ⟨current, hcurrent, rfl⟩ := List.mem_map.mp hmem
      obtain ⟨rule, hrule, hmapped⟩ := List.exists_of_forall₂_right hmaps hcurrent
      rw [← Spoke.Rule.toHub_stripped] at hdigests
      exact ⟨rule, hrule, hmapped.mutatesDigests_iff.mp hdigests⟩
    · rintro ⟨rule, hrule, hdigests⟩
      obtain ⟨current, hcurrent, hmapped⟩ := List.exists_of_forall₂_left hmaps hrule
      refine ⟨current.toHub, List.mem_map_of_mem hcurrent, ?_⟩
      rw [← Spoke.Rule.toHub_stripped]
      exact hmapped.mutatesDigests_iff.mpr hdigests

/-- The findings of the spoke of a valid hub. -/
theorem findings_convert (hvalid : policy.findings scope = [])
    (hreserved : policy.metadata.payload? = none) (hconvert : policy.convert = .ok result) :
    (∀ finding ∈ result.policy.findings scope, finding.defect = .mutateDigestInAudit) ∧
      (result.policy.findings scope = [] ↔
        ¬ (FailureAction.resolvesToAudit policy.spec.handedOnAction ∧
          ∃ rule ∈ policy.spec.rules, rule.MutatesDigests)) := by
  obtain ⟨hwellFormed, hdigests⟩ :=
    (wellFormed_of_findings hvalid).convert hreserved hconvert
  obtain ⟨hfresh, -⟩ := convert_unreserved hreserved hconvert
  have hview := Spoke.Policy.wellFormed_toHub_iff.mp hwellFormed
  have haudits : ∀ rule ∈ result.policy.view.rules,
      rule.isAudit = FailureAction.resolvesToAudit policy.spec.handedOnAction :=
    List.forall_mem_map.mpr fun rule hrule =>
      congrArg FailureAction.resolvesToAudit (Spec.effectiveAction_toSpoke hfresh hrule)
  refine ⟨fun finding => hview.defect_of_mem, ?_⟩
  rw [← hdigests, Spoke.Policy.mutatesDigests_toHub_iff]
  exact hview.findings_eq_nil_iff haudits

end Hub.Policy

/-! ## From the spoke -/

namespace Spoke.Policy

variable {policy : Policy} {result : Converted Hub.Policy} {scope : ResourceScope}

theorem wellFormed_of_findings (h : policy.findings scope = []) :
    policy.toHub.WellFormed scope :=
  wellFormed_toHub_iff.mpr (PolicyView.findings_eq_nil_iff.mp h).1

variable [Json.FloatReading]

/-- What a spoke without a stash converts to: its mapped spec, in place of its own. -/
theorem convert_unreserved (hreserved : policy.metadata.payload? = none)
    (hconvert : policy.convert = .ok result) :
    result.policy.spec = policy.spec.toHub ∧ result.policy.kind = policy.kind ∧
      result.policy.metadata.name = policy.metadata.name ∧
      result.policy.metadata.namespaceName = policy.metadata.namespaceName := by
  obtain ⟨restored, hrestored, hcase⟩ := convert_eq_ok_iff.mp hconvert
  rw [Metadata.stashed_of_payload?_eq_none hreserved] at hrestored
  obtain rfl := Except.ok.inj hrestored
  obtain ⟨spec, again, hspec, -, rfl⟩ := mapToHub_eq_ok_iff.mp hcase
  obtain rfl := Except.ok.inj hspec
  cases sameData again policy.spec <;> exact ⟨rfl, rfl, rfl, rfl⟩

/-- The findings of the hub of a valid spoke. -/
theorem findings_convert (hvalid : policy.findings scope = [])
    (hreserved : policy.metadata.payload? = none) (hconvert : policy.convert = .ok result) :
    (∀ finding ∈ result.policy.findings scope, finding.defect = .mutateDigestInAudit) ∧
      (result.policy.findings scope = [] ↔
        ¬ (FailureAction.resolvesToAudit (Routed.ofSpoke policy.spec).action ∧
          ∃ rule ∈ policy.toHub.spec.rules, rule.MutatesDigests)) := by
  obtain ⟨hspec, hkind, hname, hnamespace⟩ := convert_unreserved hreserved hconvert
  have hwellFormed : result.policy.WellFormed scope := by
    have h := wellFormed_of_findings hvalid
    refine h.of_rules hkind hname hnamespace ?_ ?_ ?_ ?_ ?_ <;> rw [hspec]
    exacts [rfl, rfl, rfl, rfl, h.rules]
  have hview := Hub.Policy.wellFormed_view_iff.mpr hwellFormed
  have haudits : ∀ rule ∈ result.policy.view.rules,
      rule.isAudit = FailureAction.resolvesToAudit (Routed.ofSpoke policy.spec).action := by
    refine List.forall_mem_map.mpr fun rule _ => ?_
    rw [hspec]
    rfl
  refine ⟨fun finding => hview.defect_of_mem, ?_⟩
  rw [Hub.Policy.findings, hview.findings_eq_nil_iff haudits, Hub.Policy.mutatesDigests_view_iff,
    hspec]
  rfl

end Spoke.Policy

/-! ## Both directions -/

/-- Some image verification rewrites digests. -/
def AnyPolicy.MutatesDigests : AnyPolicy → Prop
  | .hub policy => ∃ rule ∈ policy.spec.rules, rule.MutatesDigests
  | .spoke policy => ∃ rule ∈ policy.toHub.spec.rules, rule.MutatesDigests

/-- A valid policy without a stash converts to one of which nothing is wrong but that it rewrites
digests while failures are reported; and nothing at all, unless it rewrites digests and hands on no
action that enforces. -/
theorem findings_converted [Json.FloatReading] {converter : Converter} {source : AnyPolicy}
    {desired : ApiVersion} {result : Converted AnyPolicy} {scope : ResourceScope}
    (hother : desired ≠ source.version)
    (hreserved : source.metadata.payload? = none) (hvalid : source.findings scope = [])
    (hconvert : converter.convert source desired = .ok result) :
    (∀ finding ∈ result.policy.findings scope, finding.defect = .mutateDigestInAudit) ∧
      (result.policy.findings scope = [] ↔
        ¬ (FailureAction.resolvesToAudit source.handedOnAction ∧ source.MutatesDigests)) := by
  rcases Converter.convert_cases hconvert hother with
    ⟨policy, down, rfl, hdown, rfl⟩ | ⟨policy, up, rfl, hup, rfl⟩
  · exact Hub.Policy.findings_convert hvalid hreserved hdown
  · exact Spoke.Policy.findings_convert hvalid hreserved hup

/-- A hub that enforces, with a rule that verifies images and has other blocks. -/
def Json.digestHub (blocks : List (String × Json)) : Json :=
  .policyDocument "kyverno.io/v1" []
    [("rules", .arr [.obj ([
      ("match", .obj [("any", .arr [.obj [("resources", .obj [("kinds", .arr [.str "Pod"])])]])]),
      ("name", .str "sample")] ++ blocks ++ [
      ("verifyImages", .arr [.obj [("imageReferences", .arr [.str "*"])]])])]),
    ("validationFailureAction", .str "Enforce")]

/-- A spoke whose first rule enforces and verifies images, and whose second rule reports. -/
def Json.digestSpoke : Json :=
  let selected : Json :=
    .obj [("any", .arr [.obj [("resources", .obj [("kinds", .arr [.str "Pod"])])]])]
  .policyDocument "kyverno.io/v2" []
    [("rules", .arr [
      .obj [("match", selected), ("name", .str "first"),
        ("validate", .obj [("validationFailureAction", .str "Enforce")]),
        ("verifyImages", .arr [.obj [("imageReferences", .arr [.str "*"])]])],
      .obj [("match", selected), ("name", .str "second"), ("validate", .obj [])]])]

/-- The document holds a valid policy without a stash that converts to the version, and the two are
as asked. -/
def Json.validConverts [Json.FloatReading] (document : Json) (desired : ApiVersion)
    (ask : AnyPolicy → Converted AnyPolicy → Bool) : Bool :=
  (AnyPolicy.ofJson document).any fun source =>
    source.metadata.payload?.isNone && decide (source.findings .builtin = []) &&
      (Converter.both.convert source desired).any (ask source)

theorem Json.exists_of_validConverts [Json.FloatReading] {document : Json} {desired : ApiVersion}
    {ask : AnyPolicy → Converted AnyPolicy → Bool} (h : document.validConverts desired ask) :
    ∃ source result, AnyPolicy.ofJson document = .ok source ∧ source.metadata.payload? = none ∧
      source.findings .builtin = [] ∧ Converter.both.convert source desired = .ok result ∧
      ask source result := by
  obtain ⟨source, hdocument, hasked⟩ := Except.any_iff.mp h
  simp only [Bool.and_eq_true, Option.isNone_iff_eq_none, decide_eq_true_eq] at hasked
  obtain ⟨⟨hreserved, hvalid⟩, hconverts⟩ := hasked
  obtain ⟨result, hconvert, hasked⟩ := Except.any_iff.mp hconverts
  exact ⟨source, result, hdocument, hreserved, hvalid, hconvert, hasked⟩

theorem findings_converted_enforced :
    ∃ source result, AnyPolicy.ofJson (Json.digestHub [("validate", .obj [])]) = .ok source ∧
      source.findings .builtin = [] ∧ Converter.both.convert source .v2 = .ok result ∧
      result.policy.findings .builtin = [] := by
  have hrun : (Json.digestHub [("validate", .obj [])]).validConverts .v2 fun source _ =>
      decide (.v2 ≠ source.version) && !FailureAction.resolvesToAudit source.handedOnAction := by
    decide +kernel
  obtain ⟨source, result, hdocument, hreserved, hvalid, hconvert, hasked⟩ :=
    Json.exists_of_validConverts hrun
  obtain ⟨hother, henforced⟩ := Bool.and_eq_true_iff.mp hasked
  refine ⟨source, result, hdocument, hvalid, hconvert, ?_⟩
  refine (findings_converted (of_decide_eq_true hother) hreserved hvalid hconvert).2.mpr ?_
  rintro ⟨haudit, -⟩
  simp [haudit] at henforced

/-- The action of a hub that only verifies images is lost on the way to the spoke, and of the
actions of a spoke only the last one goes to the hub. -/
theorem digests_found_when_converted :
    (∃ source result, AnyPolicy.ofJson (Json.digestHub []) = .ok source ∧
      source.metadata.payload? = none ∧ source.findings .builtin = [] ∧
      Converter.both.convert source .v2 = .ok result ∧ result.policy.findings .builtin ≠ []) ∧
    (∃ source result, AnyPolicy.ofJson Json.digestSpoke = .ok source ∧
      source.metadata.payload? = none ∧ source.findings .builtin = [] ∧
      Converter.both.convert source .v1 = .ok result ∧ result.policy.findings .builtin ≠ []) := by
  have hhub : (Json.digestHub []).validConverts .v2 fun _ result =>
      decide (result.policy.findings .builtin ≠ []) := by decide +kernel
  have hspoke : Json.digestSpoke.validConverts .v1 fun _ result =>
      decide (result.policy.findings .builtin ≠ []) := by decide +kernel
  constructor
  · obtain ⟨source, result, hdocument, hreserved, hvalid, hconvert, hfound⟩ :=
      Json.exists_of_validConverts hhub
    exact ⟨source, result, hdocument, hreserved, hvalid, hconvert, of_decide_eq_true hfound⟩
  · obtain ⟨source, result, hdocument, hreserved, hvalid, hconvert, hfound⟩ :=
      Json.exists_of_validConverts hspoke
    exact ⟨source, result, hdocument, hreserved, hvalid, hconvert, of_decide_eq_true hfound⟩

end HubSpoke
