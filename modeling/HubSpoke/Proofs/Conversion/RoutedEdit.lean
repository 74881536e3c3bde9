import HubSpoke.Proofs.Conversion.Precedence
import HubSpoke.Proofs.Stash.Restore

/-!
# Edits of routed values

A failure action or a trigger that a spoke was edited to reaches the hub through the last rule of
its kind.  A stash may stand in the way.  While the stashed rules map, one by one, to the routed
values that the rules of the spoke hold, all three stashed values are written back, and a rule that
carries no value of a kind agrees with one that carries the default.  So a rule that has become of
another kind since may meet a value that was never stashed for it.

`Hub.Spec.Overrules` says of a stashed spec that it does this for a kind.  It never does so while
the rules have the kinds they had.
-/

namespace HubSpoke

/-- The last rule of a kind. -/
def Spoke.Spec.last? (spec : Spec) (kind : RuleKind) : Option Rule :=
  spec.rules.reverse.find? fun rule => rule.kind = kind

/-- Laid over what a spoke spec maps to, the stashed spec replaces the value of a kind: its rules
map to the values that the spoke rules hold, but its own value is not the one they supply. -/
def Hub.Spec.Overrules (restored : Spec) (spec : Spoke.Spec) (kind : RuleKind) : Prop :=
  ∃ remapped, restored.toSpoke = .ok remapped ∧
    remapped.rules.map Routed.ofRule = spec.rules.map Routed.ofRule ∧
    (Routed.ofHub restored).only kind ≠ (Routed.ofSpoke spec).only kind

/-! ## What the last rule of a kind supplies -/

theorem Routed.ofHub_toHub (spec : Spoke.Spec) : ofHub spec.toHub = ofSpoke spec := rfl

namespace Spoke.Spec

variable {spec : Spec} {kind : RuleKind} {last : Rule}

theorem only_ofSpoke_last (h : spec.last? kind = some last) :
    (Routed.ofSpoke spec).only kind = (Routed.ofRule last).only kind :=
  Routed.only_ofRules_last h

/-- The kind of a rule has a last rule. -/
theorem exists_last {rule : Rule} (hrule : rule ∈ spec.rules) :
    ∃ last ∈ spec.rules, last.kind = rule.kind ∧ spec.last? rule.kind = some last :=
  Routed.exists_find?_kind hrule

theorem kind_mem_of_last (h : spec.last? kind = some last) :
    kind ∈ spec.rules.map Rule.kind := by
  have hmem : last ∈ spec.rules := by simpa using List.mem_of_find?_eq_some h
  have hkind : last.kind = kind := by simpa using List.find?_some h
  exact List.mem_map.mpr ⟨last, hmem, hkind⟩

end Spoke.Spec

/-! ## When the stash overrules -/

namespace Hub.Spec

variable {restored spec : Spec} {source : Spoke.Spec} {kind : RuleKind}

theorem only_ofHub_overlay (h : source.toHub.overlay restored source = .ok spec) :
    (Routed.ofHub spec).only kind = (Routed.ofSpoke source).only kind ↔
      ¬ restored.Overrules source kind := by
  obtain ⟨remapped, hremapped, heq⟩ := Except.bind_eq_ok_iff.mp h
  have hmapped : restored.toSpoke = .ok remapped := Except.mapError_eq_ok_iff.mp hremapped
  obtain rfl := Except.ok.inj heq
  have hoverrules : restored.Overrules source kind ↔
      remapped.rules.map Routed.ofRule = source.rules.map Routed.ofRule ∧
        (Routed.ofHub restored).only kind ≠ (Routed.ofSpoke source).only kind := by
    simp [Overrules, hmapped]
  rw [hoverrules]
  by_cases hagree : remapped.rules.map Routed.ofRule = source.rules.map Routed.ofRule
  · -- the stashed values are written, so they are compared with those supplied
    simp only [hagree, true_and, ne_eq, not_not]
    rfl
  · simp only [hagree, false_and, not_false_eq_true, iff_true]
    rfl

/-- Rules that kept their kinds agree with the stash only where they supply its values. -/
theorem not_overrules (hkinds : restored.rules.map Rule.kind = source.rules.map Spoke.Rule.kind)
    (hkind : kind ∈ source.rules.map Spoke.Rule.kind) : ¬ restored.Overrules source kind := by
  rintro ⟨remapped, hremapped, hvalues, hother⟩
  have hparts : remapped.rules.map (fun rule => (rule.kind, Routed.ofRule rule)) =
      source.rules.map fun rule => (rule.kind, Routed.ofRule rule) := by
    have hzip (rules : List Spoke.Rule) : rules.map (fun rule => (rule.kind, Routed.ofRule rule)) =
        (rules.map Spoke.Rule.kind).zip (rules.map Routed.ofRule) := (List.zip_map' ..).symm
    rw [hzip, hzip, kinds_toSpoke hremapped, hkinds, hvalues]
  rw [← hkinds] at hkind
  obtain ⟨rule, hrule, rfl⟩ := List.mem_map.mp hkind
  apply hother
  calc (Routed.ofHub restored).only rule.kind = (Routed.ofSpoke remapped).only rule.kind :=
        (only_ofSpoke hremapped hrule).symm
    _ = (Routed.ofSpoke source).only rule.kind := by
        rw [Routed.ofSpoke, Routed.ofRules_congr hparts, Routed.ofSpoke]

end Hub.Spec

/-! ## Of whole conversions -/

/-- Specs of the same data have the same kinds of rules and the same routed values. -/
theorem Spoke.Spec.parts_of_sameData {spec other : Spec} (h : sameData spec other) :
    spec.rules.map (fun rule => (rule.kind, Routed.ofRule rule)) =
      other.rules.map fun rule => (rule.kind, Routed.ofRule rule) := by
  have hrules : spec.rules.map unsigned = other.rules.map unsigned :=
    congrArg Spec.rules (of_decide_eq_true h)
  have hparts := congrArg (List.map fun rule => (rule.kind, Routed.ofRule rule)) hrules
  simpa [Function.comp_def] using hparts

/-- A hub's value of a kind is the one supplied by a spoke of the same data as what it converts
to. -/
theorem Hub.Policy.only_ofHub_of_sameData [Json.FloatReading] {former : Hub.Policy}
    {converted : Converted Spoke.Policy} {spec : Spoke.Spec} {kind : RuleKind}
    (hconverted : former.convert = .ok converted) (hsame : sameData converted.policy.spec spec)
    (hkind : kind ∈ spec.rules.map Spoke.Rule.kind) :
    (Routed.ofHub former.spec).only kind = (Routed.ofSpoke spec).only kind := by
  obtain ⟨restored, fresh, -, hfresh, hspec⟩ := exists_laidOver hconverted
  have hparts := Spoke.Spec.parts_of_sameData hsame
  have hkinds : former.spec.rules.map Rule.kind = spec.rules.map Spoke.Rule.kind := by
    calc former.spec.rules.map Rule.kind = fresh.rules.map Spoke.Rule.kind :=
          (Spec.kinds_toSpoke hfresh).symm
      _ = converted.policy.spec.rules.map Spoke.Rule.kind := by
          rw [hspec, Spoke.Spec.kinds_of_stripped (stripped_laidOver restored fresh)]
      _ = spec.rules.map Spoke.Rule.kind := by
          simpa [Function.comp_def] using congrArg (List.map Prod.fst) hparts
  rw [← hkinds] at hkind
  obtain ⟨rule, hrule, rfl⟩ := List.mem_map.mp hkind
  calc (Routed.ofHub former.spec).only rule.kind =
        (Routed.ofSpoke converted.policy.spec).only rule.kind := by
        rw [hspec, only_laidOver restored hfresh hrule]
    _ = (Routed.ofSpoke spec).only rule.kind := by
        rw [Routed.ofSpoke, Routed.ofRules_congr hparts, Routed.ofSpoke]

/-- The hub holds the value that the rules supply, unless the stash overrules it. -/
theorem Spoke.Policy.only_ofHub_convert [Json.FloatReading] {policy : Spoke.Policy}
    {up : Converted Hub.Policy} {kind : RuleKind} (hconvert : policy.convert = .ok up)
    (hkind : kind ∈ policy.spec.rules.map Rule.kind) :
    (Routed.ofHub up.policy.spec).only kind = (Routed.ofSpoke policy.spec).only kind ↔
      ∀ saved : Stashed Hub.Spec, policy.metadata.stashed = .ok (some saved) →
        ¬ saved.spec.Overrules policy.spec kind := by
  obtain ⟨restored, hrestored, hcase⟩ := convert_eq_ok_iff.mp hconvert
  cases restored with
  | none =>
      obtain ⟨spec, again, hspec, -, rfl⟩ := mapToHub_eq_ok_iff.mp hcase
      obtain rfl := Except.ok.inj hspec
      have hvalue := congrArg (Routed.only · kind) (Routed.ofHub_toHub policy.spec)
      refine iff_of_true hvalue fun saved hsaved => ?_
      rw [hrestored] at hsaved
      cases hsaved
  | some saved =>
      have hfound : (∀ found : Stashed Hub.Spec, policy.metadata.stashed = .ok (some found) →
          ¬ found.spec.Overrules policy.spec kind) ↔ ¬ saved.spec.Overrules policy.spec kind := by
        simp [hrestored]
      obtain ⟨converted, hconverted, hresult⟩ := hcase
      rw [hfound]
      split at hresult
      case isTrue hsame =>
        -- the stashed hub is given back, and what it converts to supplies its values
        obtain rfl := hresult
        have hspec : sameData converted.policy.spec policy.spec :=
          decide_eq_true (congrArg Policy.spec (of_decide_eq_true hsame))
        have hvalue := Hub.Policy.only_ofHub_of_sameData hconverted hspec hkind
        refine iff_of_true hvalue ?_
        rintro ⟨remapped, -, -, hother⟩
        exact hother hvalue
      case isFalse =>
        obtain ⟨spec, again, hspec, -, rfl⟩ := mapToHub_eq_ok_iff.mp hresult
        exact Hub.Spec.only_ofHub_overlay hspec

/-- The hub holds the value of the last rule of a kind, unless the spoke carries a stash that
overrules it; and no stash does while the rules have the kinds of the stashed ones. -/
theorem spoke_value_kept_iff [Json.FloatReading] {policy : Spoke.Policy} {up : Converted Hub.Policy}
    {kind : RuleKind} {last : Spoke.Rule} (hconvert : policy.convert = .ok up)
    (hlast : policy.spec.last? kind = some last) :
    ((Routed.ofHub up.policy.spec).only kind = (Routed.ofRule last).only kind ↔
      ∀ saved : Stashed Hub.Spec, policy.metadata.stashed = .ok (some saved) →
        ¬ saved.spec.Overrules policy.spec kind) ∧
    ((∀ saved : Stashed Hub.Spec, policy.metadata.stashed = .ok (some saved) →
        saved.spec.rules.map Hub.Rule.kind = policy.spec.rules.map Spoke.Rule.kind) →
      (Routed.ofHub up.policy.spec).only kind = (Routed.ofRule last).only kind) := by
  have hkind := Spoke.Spec.kind_mem_of_last hlast
  have hiff := Spoke.Policy.only_ofHub_convert hconvert hkind
  rw [← Spoke.Spec.only_ofSpoke_last hlast]
  refine ⟨hiff, fun hkinds => hiff.mpr fun saved hsaved => ?_⟩
  exact Hub.Spec.not_overrules (hkinds saved hsaved) hkind

/-- A spoke that validates without an action of its own, with the stash of a hub that enforces and
whose only rule has a given block. -/
def Json.unsetSpoke (block : String) : Json :=
  .policyDocument "kyverno.io/v2"
    [(Stashed.annotation, .str ("\x7b\"apiVersion\":\"kyverno.io/v1\",\"spec\":\x7b" ++
      "\"rules\":[\x7b\"" ++ block ++ "\":\x7b\x7d,\"name\":\"sample\"\x7d]," ++
      "\"validationFailureAction\":\"Enforce\"\x7d\x7d"))]
    [("rules", .arr [.obj [("name", .str "sample"), ("validate", .obj [])]])]

theorem spoke_value_kept_unset :
    ∃ policy up last, AnyPolicy.ofJson (Json.unsetSpoke "validate") = .ok (.spoke policy) ∧
      policy.convert = .ok up ∧ up.restored = true ∧ policy.spec.last? .validate = some last ∧
      (Routed.ofHub up.policy.spec).only .validate = (Routed.ofRule last).only .validate := by
  have hrun : (Json.unsetSpoke "validate").spokeConverts fun policy up => up.restored &&
      (policy.spec.last? .validate).isSome &&
      (policy.metadata.stashed : Except PayloadFault (Option (Stashed Hub.Spec))).any fun found =>
        found.all fun saved => saved.spec.rules.map Hub.Rule.kind =
          policy.spec.rules.map Spoke.Rule.kind := by
    decide +kernel
  obtain ⟨policy, up, hdocument, hup, hasked⟩ := Json.exists_of_spokeConverts hrun
  simp only [Bool.and_eq_true, Except.any_iff, Option.isSome_iff_exists] at hasked
  obtain ⟨⟨hrestored, last, hlast⟩, found, hfound, hkinds⟩ := hasked
  refine ⟨policy, up, last, hdocument, hup, hrestored, hlast,
    (spoke_value_kept_iff hup hlast).2 fun saved hsaved => ?_⟩
  obtain rfl := Except.ok.inj (hfound.symm.trans hsaved)
  exact of_decide_eq_true hkinds

/-- The action of a hub that only mutates is given to a rule that validates and sets none, because
neither the stashed rule nor the other carries an action. -/
theorem stashed_action_given :
    ∃ policy up last, AnyPolicy.ofJson (Json.unsetSpoke "mutate") = .ok (.spoke policy) ∧
      policy.convert = .ok up ∧ policy.spec.last? .validate = some last ∧
      (Routed.ofRule last).action = none ∧
      up.policy.spec.validationFailureAction = some .enforce := by
  have hrun : (Json.unsetSpoke "mutate").spokeConverts fun policy up =>
      ((policy.spec.last? .validate).any fun last => (Routed.ofRule last).action = none) &&
        decide (up.policy.spec.validationFailureAction = some .enforce) := by
    decide +kernel
  obtain ⟨policy, up, hdocument, hup, hasked⟩ := Json.exists_of_spokeConverts hrun
  simp only [Bool.and_eq_true, Option.any_eq_true, decide_eq_true_eq] at hasked
  obtain ⟨⟨last, hlast, hunset⟩, haction⟩ := hasked
  exact ⟨policy, up, last, hdocument, hup, hlast, hunset, haction⟩

end HubSpoke
