import HubSpoke.Proofs.Conversion.Precedence
import HubSpoke.Proofs.Stash.Restore
import HubSpoke.Proofs.Validation.Spoke
import HubSpoke.Proofs.Validation.Wording
import Mathlib.Algebra.GroupWithZero.Nat

/-!
# Offences against notary checks

A notary check may hold neither keys nor an identity.  Attestors that do stand in three places: in
the sets of the check, in the sets of its attestations, and as the single signer of older documents,
which is put together from five fields.  Each of them is told of once, and by nothing else: no other
defect is worded as an offence is, and only the walk over attestors finds one.

Going to the spoke, the single signer moves to the end of the sets.  There it is told of as it was
before, so the count stays what it was.
-/

namespace HubSpoke

/-! ## Offenders -/

/-- The attestor may not be in a notary check. -/
def Attestor.offendsNotary (a : Attestor) : Bool :=
  a.keys.isSome || a.keyless.isSome

theorem Attestor.offendsNotary_iff {a : Attestor} : a.offendsNotary ↔ ¬ a.FitsNotary := by
  cases hkeys : a.keys <;> simp [offendsNotary, FitsNotary, hkeys, Option.isSome_iff_ne_none]

/-- How many entries of the sets may not be in a notary check. -/
def AttestorSet.offenders (sets : List AttestorSet) : Nat :=
  (sets.map fun set => set.entries.countP Attestor.offendsNotary).sum

theorem AttestorSet.offenders_append (sets others : List AttestorSet) :
    offenders (sets ++ others) = offenders sets + offenders others := by
  rw [offenders, List.map_append, List.sum_append, offenders, offenders]

namespace Hub

/-- A key or a part of an identity is given as older documents do. -/
def ImageVerification.HasLegacySigner (v : ImageVerification) : Prop :=
  v.key ≠ "" ∨ v.issuer ≠ "" ∨ v.subject ≠ "" ∨ v.roots ≠ "" ∨ v.additionalExtensions ≠ .empty

instance (v : ImageVerification) : Decidable v.HasLegacySigner :=
  inferInstanceAs (Decidable (_ ∨ _))

/-- How many attestors of the check may not be in it. -/
def ImageVerification.notaryOffenders (v : ImageVerification) : Nat :=
  if v.type = some .notary then
    AttestorSet.offenders v.attestors +
      (v.attestations.map fun attestation => AttestorSet.offenders attestation.attestors).sum +
      if v.HasLegacySigner then 1 else 0
  else 0

def Rule.notaryOffenders (rule : Rule) : Nat :=
  (rule.verifyImages.map ImageVerification.notaryOffenders).sum

def Policy.notaryOffenders (policy : Policy) : Nat :=
  (policy.spec.rules.map Rule.notaryOffenders).sum

end Hub

/-- How many attestors of the check may not be in it. -/
def ImageView.notaryOffenders (v : ImageView) : Nat :=
  if v.isNotary then
    AttestorSet.offenders v.attestors + (v.attestations.map AttestorSet.offenders).sum +
      AttestorSet.offenders v.legacy.toList
  else 0

def RuleView.notaryOffenders (rule : RuleView) : Nat :=
  (rule.images.map ImageView.notaryOffenders).sum

def PolicyView.notaryOffenders (policy : PolicyView) : Nat :=
  (policy.rules.map RuleView.notaryOffenders).sum

/-! ## Findings that tell of an offence -/

/-- The defect is an offence against a notary check. -/
def Defect.isNotary : Defect → Bool
  | .notaryKeysAndKeyless | .notaryKeyless | .notaryKeys => true
  | _ => false

/-- The offences against a notary check. -/
def Defect.notaryDefects : List Defect :=
  [.notaryKeysAndKeyless, .notaryKeyless, .notaryKeys]

/-- The finding is worded as an offence against a notary check. -/
def Finding.tellsNotary (finding : Finding) : Bool :=
  (Defect.notaryDefects.map Defect.message).contains finding.defect.message

theorem Defect.mem_notaryDefects_iff {defect : Defect} :
    defect ∈ notaryDefects ↔ defect.isNotary := by
  cases defect <;> simp [notaryDefects, isNotary]

theorem Defect.isNotary_of_isOfFilter {defect : Defect} (h : defect.isOfFilter) :
    defect.isNotary = false := by
  cases defect <;> first | rfl | cases h

namespace Finding

/-- Only offences are worded as offences. -/
theorem tellsNotary_eq (finding : Finding) : finding.tellsNotary = finding.defect.isNotary := by
  rw [Bool.eq_iff_iff, tellsNotary, List.contains_iff_mem, List.mem_map,
    ← Defect.mem_notaryDefects_iff]
  constructor
  · rintro ⟨defect, hdefect, hmessage⟩
    have hletters : ∀ defect ∈ Defect.notaryDefects, defect.hasOwnLetters := by decide +kernel
    rwa [Defect.eq_of_message_eq (hletters defect hdefect) hmessage.symm]
  · intro hmem
    exact ⟨finding.defect, hmem, rfl⟩

/-- How many findings tell of an offence against a notary check. -/
def notaryCount (findings : List Finding) : Nat :=
  findings.countP tellsNotary

variable {path : FieldPath} {defect : Defect} {findings others : List Finding}

@[simp] theorem notaryCount_append :
    notaryCount (findings ++ others) = notaryCount findings + notaryCount others :=
  List.countP_append

theorem notaryCount_eq_zero (h : ∀ finding ∈ findings, finding.defect.isNotary = false) :
    notaryCount findings = 0 := by
  refine List.countP_eq_zero.mpr fun finding hfinding => ?_
  rw [tellsNotary_eq, h finding hfinding]
  exact Bool.false_ne_true

theorem notaryCount_require {met : Bool} (h : defect.isNotary = false) :
    notaryCount (require met path defect) = 0 := by
  cases met with
  | true => rfl
  | false => exact notaryCount_eq_zero (List.forall_mem_singleton.mpr h)

theorem notaryCount_flatMap {α : Type} {items : List α} {findings : α → List Finding} :
    notaryCount (items.flatMap findings) =
      (items.map fun item => notaryCount (findings item)).sum :=
  List.countP_flatMap

/-- What is counted of the items of a list, wherever they stand in it. -/
theorem notaryCount_zipIdx {α : Type} {items : List α} {findings : α → Nat → List Finding}
    {count : α → Nat} (h : ∀ item position, notaryCount (findings item position) = count item) :
    notaryCount (items.zipIdx.flatMap fun (item, position) => findings item position) =
      (items.map count).sum := by
  calc notaryCount (items.zipIdx.flatMap fun (item, position) => findings item position)
      = (items.zipIdx.map fun entry => count entry.1).sum := by simp only [notaryCount_flatMap, h]
    _ = ((items.zipIdx.map Prod.fst).map count).sum := by rw [List.map_map]; rfl
    _ = (items.map count).sum := by rw [List.zipIdx_map_fst]

end Finding

open Finding (notaryCount notaryCount_append notaryCount_eq_zero notaryCount_require
  notaryCount_flatMap notaryCount_zipIdx)

/-! ## Attestors -/

variable {isNotary : Bool} {path : FieldPath}

theorem Attestor.notaryCount_findings (a : Attestor) :
    notaryCount (a.notaryFindings isNotary path) =
      if isNotary ∧ a.offendsNotary then 1 else 0 := by
  cases isNotary <;> cases hkeys : a.keys <;> cases hkeyless : a.keyless <;>
    simp [notaryFindings, notaryDefect?, offendsNotary, notaryCount, Finding.tellsNotary_eq,
      Defect.isNotary, hkeys, hkeyless]

theorem Attestor.sum_offendsNotary (entries : List Attestor) :
    (entries.map fun entry => if entry.offendsNotary then 1 else 0).sum =
      entries.countP offendsNotary := by
  induction entries with
  | nil => rfl
  | cons entry entries ih =>
      rw [List.map_cons, List.sum_cons, ih, List.countP_cons, Nat.add_comm]

/-- Of the entries of a set, those are told of that offend. -/
theorem AttestorSet.notaryCount_findings (set : AttestorSet) :
    notaryCount (set.findings isNotary path) =
      if isNotary then set.entries.countP Attestor.offendsNotary else 0 := by
  have hentry (entry : Attestor) (position : Nat) :
      notaryCount (Finding.require entry.isDescribed ((path.child "entries").index position)
        .attestorUndescribed ++
        entry.notaryFindings isNotary ((path.child "entries").index position)) =
          if isNotary ∧ entry.offendsNotary then 1 else 0 := by
    rw [notaryCount_append, notaryCount_require rfl, Attestor.notaryCount_findings, Nat.zero_add]
  rw [findings, notaryCount_append, notaryCount_append, notaryCount_require rfl,
    notaryCount_require rfl, notaryCount_zipIdx hentry]
  cases isNotary with
  | false => simp
  | true => simpa using Attestor.sum_offendsNotary set.entries

theorem AttestorSet.notaryCount_listFindings (sets : List AttestorSet) :
    notaryCount (listFindings isNotary path sets) = if isNotary then offenders sets else 0 := by
  have hset (set : AttestorSet) (position : Nat) : notaryCount (set.findings isNotary
      ((path.child "attestors").index position)) =
        if isNotary then set.entries.countP Attestor.offendsNotary else 0 :=
    set.notaryCount_findings
  rw [listFindings, notaryCount_zipIdx hset]
  cases isNotary <;> simp [offenders]

/-! ## Image verifications -/

namespace ImageView

theorem notaryCount_legacyFindings (v : ImageView) :
    notaryCount (v.legacy.toList.flatMap fun set =>
      set.entries.flatMap (Attestor.notaryFindings v.isNotary path)) =
        if v.isNotary then AttestorSet.offenders v.legacy.toList else 0 := by
  simp only [notaryCount_flatMap, Attestor.notaryCount_findings]
  cases v.isNotary with
  | false => simp
  | true => simp [AttestorSet.offenders, Attestor.sum_offendsNotary]

/-- Of an image verification every attestor is told of that may not be in it, and once. -/
theorem notaryCount_findings (isAudit : Bool) (v : ImageView) :
    notaryCount (v.findings isAudit path) = v.notaryOffenders := by
  have hattestation (sets : List AttestorSet) (position : Nat) :
      notaryCount (AttestorSet.listFindings v.isNotary
        ((path.child "attestations").index position) sets) =
          if v.isNotary then AttestorSet.offenders sets else 0 :=
    AttestorSet.notaryCount_listFindings sets
  simp (disch := decide) only [findings, notaryCount_append, notaryCount_require, Nat.zero_add]
  rw [AttestorSet.notaryCount_listFindings, notaryCount_zipIdx hattestation,
    notaryCount_legacyFindings, notaryOffenders]
  cases v.isNotary <;> simp

end ImageView

namespace Hub.ImageVerification

theorem legacyAttestorSet_eq_none_iff {v : ImageVerification} :
    v.legacyAttestorSet = none ↔ ¬ v.HasLegacySigner := by
  simp [legacyAttestorSet, HasLegacySigner]

/-- The single signer of older documents offends, if there is one. -/
theorem offenders_legacyAttestorSet (v : ImageVerification) :
    AttestorSet.offenders v.legacyAttestorSet.toList = if v.HasLegacySigner then 1 else 0 := by
  cases hset : v.legacyAttestorSet with
  | none => rw [if_neg (legacyAttestorSet_eq_none_iff.mp hset)]; rfl
  | some set =>
      have hsigner : v.HasLegacySigner := by
        by_contra hnone
        rw [legacyAttestorSet_eq_none_iff.mpr hnone] at hset
        cases hset
      obtain ⟨entry, hgiven, rfl⟩ := exists_legacyAttestorSet_eq hset
      rw [if_pos hsigner]
      simp [AttestorSet.offenders, Attestor.offendsNotary_iff.mpr hgiven]

theorem notaryOffenders_view (v : ImageVerification) :
    v.view.notaryOffenders = v.notaryOffenders := by
  rw [ImageView.notaryOffenders, view, offenders_legacyAttestorSet, List.map_map, notaryOffenders]
  simp [isNotary, Function.comp_def]

/-- In the lists of the spoke the single signer offends as it did before. -/
theorem notaryOffenders_folded (v : ImageVerification) :
    v.toSpoke.toHub.notaryOffenders = v.notaryOffenders := by
  have hattestors : AttestorSet.offenders v.toSpoke.toHub.attestors =
      AttestorSet.offenders v.attestors + if v.HasLegacySigner then 1 else 0 := by
    rw [← offenders_legacyAttestorSet, ← AttestorSet.offenders_append]
    rfl
  have hattestations : (v.toSpoke.toHub.attestations.map fun attestation =>
      AttestorSet.offenders attestation.attestors) =
        v.attestations.map fun attestation => AttestorSet.offenders attestation.attestors := by
    simp [toSpoke, Spoke.ImageVerification.toHub, Attestation.toSpoke, Spoke.Attestation.toHub]
  have htype : v.toSpoke.toHub.type = v.type := rfl
  have hsigner : ¬ v.toSpoke.toHub.HasLegacySigner := by
    simp [HasLegacySigner, toSpoke, Spoke.ImageVerification.toHub]
  rw [notaryOffenders, notaryOffenders, htype, hattestors, hattestations, if_neg hsigner]
  split
  case isTrue => omega
  case isFalse => rfl

end Hub.ImageVerification

/-! ## Policies -/

theorem MatchView.notaryCount_findings (context : MatchContext) (view : MatchView) :
    notaryCount (view.findings context path) = 0 := by
  have hfilters := notaryCount_eq_zero fun finding hfinding =>
    Defect.isNotary_of_isOfFilter (view.ofFilters context path finding hfinding)
  rw [findings_eq, conflictFindings, notaryCount_append, notaryCount_append,
    notaryCount_require rfl, notaryCount_require rfl, hfilters]

theorem RuleView.notaryCount_findings (context : MatchContext) (rule : RuleView) :
    notaryCount (rule.findings context path) = rule.notaryOffenders := by
  have himage (image : ImageView) (position : Nat) :
      notaryCount (image.findings rule.isAudit ((path.child "verifyImages").index position)) =
        image.notaryOffenders := image.notaryCount_findings rule.isAudit
  have hexclude : notaryCount (rule.exclude.toList.flatMap
      (MatchView.findings context (path.child "exclude"))) = 0 := by
    simp [notaryCount_flatMap, MatchView.notaryCount_findings]
  simp (disch := decide) only [findings, notaryCount_append, notaryCount_require,
    MatchView.notaryCount_findings, hexclude, Nat.zero_add]
  exact notaryCount_zipIdx himage

theorem notaryCount_ruleNamesFindings (rules : FieldPath) (names : List String) :
    notaryCount (ruleNamesFindings rules names) = 0 := by
  have hname (name : String) (position : Nat) : notaryCount (ruleNameFindings
      ((rules.index position).child "name") (names.take position) name) = 0 := by
    rw [ruleNameFindings]
    split
    case isTrue => exact notaryCount_eq_zero (List.forall_mem_singleton.mpr rfl)
    case isFalse => rw [notaryCount_append, notaryCount_require rfl, notaryCount_require rfl]
  rw [ruleNamesFindings_eq, notaryCount_zipIdx hname]
  simp

theorem notaryCount_timeoutFindings (timeout : Option Int32) :
    notaryCount (timeoutFindings path timeout) = 0 := by
  cases timeout with
  | none => rfl
  | some seconds => exact notaryCount_require rfl

/-- Whichever failures are only reported, the rules tell of the offenders among their attestors. -/
theorem PolicyView.notaryCount_findings (policy : PolicyView) (scope : ResourceScope) :
    notaryCount (policy.findings scope) = policy.notaryOffenders := by
  have hrule (rule : RuleView) (position : Nat) :
      notaryCount (rule.findings (policy.matchContext scope) (FieldPath.rules.index position)) =
        rule.notaryOffenders := rule.notaryCount_findings _
  simp (disch := decide) only [findings, notaryCount_append, notaryCount_require,
    notaryCount_ruleNamesFindings, notaryCount_timeoutFindings, Nat.zero_add]
  exact notaryCount_zipIdx hrule

namespace Hub

theorem Rule.notaryOffenders_view (isAudit : Bool) (rule : Rule) :
    (rule.view isAudit).notaryOffenders = rule.notaryOffenders := by
  rw [RuleView.notaryOffenders, view, List.map_map, notaryOffenders]
  exact congrArg List.sum (List.map_congr_left fun image _ => image.notaryOffenders_view)

theorem Policy.notaryCount_findings (policy : Policy) (scope : ResourceScope) :
    notaryCount (policy.findings scope) = policy.notaryOffenders := by
  rw [findings, PolicyView.notaryCount_findings, PolicyView.notaryOffenders, view, List.map_map,
    notaryOffenders]
  exact congrArg List.sum (List.map_congr_left fun rule _ => rule.notaryOffenders_view _)

end Hub

theorem Spoke.Policy.notaryCount_findings (policy : Policy) (scope : ResourceScope) :
    notaryCount (policy.findings scope) = policy.toHub.notaryOffenders := by
  have hrules : policy.toHub.spec.rules = policy.spec.rules.map Rule.toHub := rfl
  rw [findings, PolicyView.notaryCount_findings, PolicyView.notaryOffenders, view, List.map_map,
    Hub.Policy.notaryOffenders, hrules, List.map_map]
  refine congrArg List.sum (List.map_congr_left fun rule _ => ?_)
  rw [Function.comp_apply, ← Rule.view_toHub, Hub.Rule.notaryOffenders_view]
  rfl

/-- A converted hub has in its attestors the offenders that it had. -/
theorem Hub.Policy.notaryOffenders_convert [Json.FloatReading] {policy : Policy}
    {result : Converted Spoke.Policy} (hconvert : policy.convert = .ok result) :
    result.policy.toHub.notaryOffenders = policy.notaryOffenders := by
  obtain ⟨restored, fresh, -, hfresh, hspec⟩ := exists_laidOver hconvert
  have hfolded {r : Rule} {x : Spoke.Rule} (hmaps : r.MapsTo x) :
      ((Routed.ofHub policy.spec).routeInto x).toHub.notaryOffenders = r.notaryOffenders := by
    have himages : x.toHub.verifyImages = (r.verifyImages.map ImageVerification.toSpoke).map
        Spoke.ImageVerification.toHub := by rw [hmaps.rest]; rfl
    rw [← Spoke.Rule.toHub_stripped, Spoke.Rule.stripped_routeInto, Spoke.Rule.toHub_stripped,
      Rule.notaryOffenders, himages, List.map_map, List.map_map, Rule.notaryOffenders]
    exact congrArg List.sum (List.map_congr_left fun image _ => image.notaryOffenders_folded)
  calc result.policy.toHub.notaryOffenders
      = (result.policy.spec.rules.map fun rule => rule.toHub.notaryOffenders).sum := by
        simp [notaryOffenders, Spoke.Policy.toHub, Spoke.Spec.toHub, Routed.writeTo,
          Function.comp_def]
    _ = (fresh.rules.map fun rule => rule.toHub.notaryOffenders).sum := by
        rw [hspec, Spoke.Spec.map_of_stripped (stripped_laidOver restored fresh) fun rule =>
          congrArg Rule.notaryOffenders rule.toHub_stripped]
    _ = policy.notaryOffenders := by
        rw [Spec.map_toSpoke hfresh hfolded, notaryOffenders]

/-- Both a hub that converts and the spoke it converts to have one finding that is worded as an
offence against a notary check for each attestor that may not be in one. -/
theorem notary_offenders_told [Json.FloatReading] {policy : Hub.Policy}
    {result : Converted Spoke.Policy} (hconvert : policy.convert = .ok result)
    (scope : ResourceScope) :
    (policy.findings scope).countP Finding.tellsNotary = policy.notaryOffenders ∧
      (result.policy.findings scope).countP Finding.tellsNotary = policy.notaryOffenders := by
  constructor
  · exact policy.notaryCount_findings scope
  · exact (result.policy.notaryCount_findings scope).trans
      (Hub.Policy.notaryOffenders_convert hconvert)

/-- A hub with two image verifications of the same signers, of which one is a notary check: a key,
a certificate, and a key with an identity in its sets, an identity in those of an attestation, and
the subject of a single identity. -/
def Json.notaryHub : Json :=
  let key : String × Json := ("keys", .obj [("publicKeys", .str "key")])
  let identity : String × Json := ("keyless", .obj [("issuer", .str "issuer")])
  let certificate : String × Json := ("certificates", .obj [("cert", .str "cert")])
  let sets (entries : List Json) : String × Json :=
    ("attestors", .arr [.obj [("entries", .arr entries)]])
  let image (type : String) : Json := .obj
    [("attestations", .arr [.obj [sets [.obj [identity]]]]),
      sets [.obj [key], .obj [certificate], .obj [key, identity]],
      ("subject", .str "subject"), ("type", .str type)]
  .policyDocument "kyverno.io/v1" []
    [("rules", .arr [.obj [("name", .str "sample"),
      ("verifyImages", .arr [image "Notary", image "Cosign"])]])]

theorem notary_offenders_told_everywhere :
    ∃ policy result, AnyPolicy.ofJson Json.notaryHub = .ok (.hub policy) ∧
      policy.convert = .ok result ∧ policy.notaryOffenders = 4 ∧
      (policy.findings .builtin).countP Finding.tellsNotary = 4 ∧
      (result.policy.findings .builtin).countP Finding.tellsNotary = 4 := by
  have hrun : Json.notaryHub.hubConverts fun policy _ => policy.notaryOffenders = 4 := by
    decide +kernel
  obtain ⟨policy, result, hdocument, hconvert, hasked⟩ := Json.exists_of_hubConverts hrun
  have hfour : policy.notaryOffenders = 4 := of_decide_eq_true hasked
  obtain ⟨hhub, hspoke⟩ := notary_offenders_told hconvert .builtin
  exact ⟨policy, result, hdocument, hconvert, hfour, hhub.trans hfour, hspoke.trans hfour⟩

end HubSpoke
