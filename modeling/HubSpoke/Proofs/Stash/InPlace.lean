import HubSpoke.Proofs.Mapping.Total
import HubSpoke.Stash.InPlace

/-!
# A fault leaves the spec as it was

A stash is mapped as a whole before anything is written, and its rules are mapped again one by one
while the spec is rewritten.  Whether a rule maps does not depend on where it stands, so the first
mapping decides: either it fails, and nothing was written, or no step after it fails, whichever
rules are paired, and what was written is the overlaid spec.
-/

namespace HubSpoke

/-! ## Changes in place -/

namespace InPlace

variable {σ α : Type}

/-- A step that looks at the state first. -/
theorem get_bind (next : σ → InPlace σ α) (state : σ) : (get >>= next) state = next state state :=
  rfl

/-- Where no item's change fails, the items are changed one by one. -/
theorem eachItem_eq_ok {change : Nat → InPlace σ Unit} {changed : Nat → σ → σ}
    (h : ∀ position item, change position item = .ok () (changed position item)) (items : List σ)
    (start : Nat) :
    eachItem change start items =
      .ok () ((items.zipIdx start).map fun (item, position) => changed position item) := by
  induction items generalizing start with
  | nil => rfl
  | cons item rest ih => simp only [eachItem, h, ih, List.zipIdx_cons, List.map_cons]

end InPlace

/-! ## Pairs of rules -/

/-- The stashed rule of a name is the one at the place where it is sought. -/
theorem counterpart?_eq_bind {ρ : Type} (nameOf : ρ → String) (stashed : List ρ) (position : Nat)
    (name : String) :
    counterpart? nameOf stashed position name =
      (counterpartAt? (stashed.map nameOf) position name).bind (stashed[·]?) := by
  have hfind : (stashed.find? fun rule => nameOf rule = name) =
      ((stashed.map nameOf).findIdx? fun other => other = name).bind (stashed[·]?) := by
    rw [List.find?_eq_bind_findIdx?_getElem?, List.findIdx?_map]
    rfl
  rw [counterpart?, counterpartAt?, List.getElem?_map, hfind]
  cases hrule : stashed[position]? with
  | none => simp
  | some rule =>
      by_cases hname : nameOf rule = name
      · simp [hname, hrule]
      · simp [hname]

/-! ## Rules -/

namespace Hub.Rule

variable {saved fresh : Rule}

/-- Restoring a part that maps chooses between the part of the stash and that of the rule. -/
theorem restorePart_ok {α β : Type} (part : Rule → α) (withPart : Rule → α → Rule) (value : β)
    (agrees : β → Prop) [DecidablePred agrees] :
    saved.restorePart part withPart (.ok value) agrees fresh =
      .ok () (withPart fresh (if agrees value then part saved else part fresh)) := rfl

/-- A rule that maps is restored without a fault, whatever the path and the rules it is paired
with. -/
theorem restoreInPlace_eq_ok {mapped : Spoke.Rule} (h : saved.MapsTo mapped.stripped)
    (current : Spoke.Rule) (path : FieldPath) (fresh : Rule) :
    saved.restoreInPlace current path fresh = .ok () (fresh.restoreUnits saved mapped current) := by
  have hmatch : saved.matchBlock.toSpoke = mapped.stripped.matchBlock :=
    congrArg Spoke.Rule.matchBlock h.rest.symm
  have hexclude : saved.exclude.map MatchBlock.toSpoke = mapped.stripped.exclude :=
    congrArg Spoke.Rule.exclude h.rest.symm
  have hpreconditions : ConditionBlock.ofField (path.child "preconditions") saved.preconditions =
      .ok mapped.stripped.preconditions := ConditionBlock.ofField_eq_ok_iff.mpr h.preconditions
  have hvalidation : saved.validation.mapM (Validation.toSpoke (path.child "validate")) =
      .ok mapped.stripped.validation := by
    simpa only [Except.optionMapM_eq_ok_iff, Validation.toSpoke_eq_ok_iff] using h.validation
  have hmutation : saved.mutation.mapM (Mutation.toSpoke (path.child "mutate")) =
      .ok mapped.stripped.mutation := by
    simpa only [Except.optionMapM_eq_ok_iff, Mutation.toSpoke_eq_ok_iff] using h.mutation
  have hgeneration : saved.generation.map Generation.toSpoke = mapped.stripped.generation :=
    congrArg Spoke.Rule.generation h.rest.symm
  have himages : saved.verifyImages.map ImageVerification.toSpoke = mapped.stripped.verifyImages :=
    congrArg Spoke.Rule.verifyImages h.rest.symm
  simp only [restoreInPlace, hmatch, hexclude, hpreconditions, hvalidation, hmutation, hgeneration,
    himages, bind, EStateM.bind, restorePart_ok]
  rfl

end Hub.Rule

/-! ## Specs -/

namespace Hub.Spec

variable {restored : Spec} {remapped : Spoke.Spec}

/-- Among rules that map, the rule at a position is restored from its counterpart, if it has one. -/
theorem restoreRuleAt_eq_ok (h : restored.toSpoke = .ok remapped) (source : Spoke.Spec)
    (position : Nat) (fresh : Rule) :
    restored.restoreRuleAt source position fresh = .ok () (
      match source.rules[position]?, counterpart? (fun pair => pair.1.name)
        (restored.rules.zip remapped.rules) position fresh.name with
      | some current, some (saved, mapped) => fresh.restoreUnits saved mapped current
      | _, _ => fresh) := by
  have hmaps := toSpoke_stripped h
  have hnames : (restored.rules.zip remapped.rules).map (fun pair => pair.1.name) =
      restored.rules.map Rule.name := by
    calc (restored.rules.zip remapped.rules).map (Rule.name ∘ Prod.fst) =
          ((restored.rules.zip remapped.rules).map Prod.fst).map Rule.name := List.map_map.symm
      _ = restored.rules.map Rule.name := by rw [List.map_fst_zip (Nat.le_of_eq hmaps.length_eq)]
  rw [counterpart?_eq_bind, hnames, restoreRuleAt]
  cases source.rules[position]? with
  | none => rfl
  | some current =>
      simp only [InPlace.get_bind]
      cases counterpartAt? (restored.rules.map Rule.name) position fresh.name with
      | none => rfl
      | some place =>
          simp only [Option.bind_some]
          cases hpair : (restored.rules.zip remapped.rules)[place]? with
          | none =>
              have hnone : restored.rules[place]? = none := by
                simpa [hmaps.length_eq] using hpair
              rw [hnone]
              rfl
          | some pair =>
              obtain ⟨hsaved, -⟩ := List.getElem?_zip_eq_some.mp hpair
              rw [hsaved]
              exact Rule.restoreInPlace_eq_ok (List.forall₂_zip hmaps (List.mem_of_getElem? hpair))
                current _ fresh

/-- A stash that maps is laid over in place without a fault, and what comes of it is the overlaid
spec. -/
theorem exists_overlayInPlace (h : restored.toSpoke = .ok remapped) (source : Spoke.Spec)
    (fresh : Spec) :
    ∃ spec, fresh.overlay restored source = .ok spec ∧
      restored.overlayInPlace source fresh = .ok () spec := by
  -- the fields of the policy are written first, and leave the rules alone
  obtain ⟨routed, hoverlay, hrules, hfields⟩ : ∃ routed : Spec,
      fresh.overlay restored source = .ok { routed with
        rules := overlayRules fresh.rules (restored.rules.zip remapped.rules) source.rules } ∧
      routed.rules = fresh.rules ∧ restored.overlayInPlace source fresh =
        InPlace.onRules (InPlace.eachItem (restored.restoreRuleAt source) 0) routed := by
    rw [overlay, overlayInPlace, h]
    refine ⟨_, rfl, by split <;> rfl, ?_⟩
    cases restored.validationFailureActionOverrides.isEmpty <;> rfl
  refine ⟨_, hoverlay, ?_⟩
  rw [hfields, InPlace.onRules, hrules, InPlace.eachItem_eq_ok (restoreRuleAt_eq_ok h source)]
  rfl

/-- A stash that does not map leaves the spec alone. -/
theorem overlayInPlace_eq_error {cause : MalformedConditions} (h : restored.toSpoke = .error cause)
    (source : Spoke.Spec) (fresh : Spec) :
    fresh.overlay restored source = .error (.conditions cause) ∧
      restored.overlayInPlace source fresh = .error (.conditions cause) fresh := by
  rw [overlay, overlayInPlace, h]
  exact ⟨rfl, rfl⟩

/-- Laying a stash over a spec fails exactly when the stash does not map, and then the payload is to
blame.  Done in place, it fails with the same fault, and the spec is as it was; or it gives the
overlaid spec, because once the stash has mapped no rule of it can fail any more, whichever rule it
is paired with and wherever it stands. -/
theorem overlayInPlace_atomic (restored fresh : Spec) (source : Spoke.Spec) :
    (∀ fault, fresh.overlay restored source = .error fault ↔
      ∃ cause, restored.toSpoke = .error cause ∧ fault = .conditions cause) ∧
    (∀ fault left, restored.overlayInPlace source fresh = .error fault left ↔
      left = fresh ∧ fresh.overlay restored source = .error fault) ∧
    (∀ spec, restored.overlayInPlace source fresh = .ok () spec ↔
      fresh.overlay restored source = .ok spec) ∧
    ∀ remapped, restored.toSpoke = .ok remapped → ∀ saved ∈ restored.rules,
      ∀ current path rule, ∃ after, saved.restoreInPlace current path rule = .ok () after := by
  cases hmapped : restored.toSpoke with
  | error cause =>
      obtain ⟨hpure, hstep⟩ := overlayInPlace_eq_error hmapped source fresh
      rw [hpure, hstep]
      refine ⟨fun fault => ?_, fun fault left => ?_, fun spec => iff_of_false nofun nofun,
        fun _ hremapped => nomatch hremapped⟩
      · constructor
        · rintro ⟨⟩
          exact ⟨cause, rfl, rfl⟩
        · rintro ⟨_, ⟨⟩, rfl⟩
          rfl
      · constructor
        · rintro ⟨⟩
          exact ⟨rfl, rfl⟩
        · rintro ⟨rfl, ⟨⟩⟩
          rfl
  | ok remapped =>
      obtain ⟨spec, hpure, hstep⟩ := exists_overlayInPlace hmapped source fresh
      rw [hpure, hstep]
      refine ⟨fun fault => iff_of_false nofun (fun ⟨_, herror, _⟩ => nomatch herror),
        fun fault left => iff_of_false nofun (fun ⟨_, herror⟩ => nomatch herror),
        fun other => ?_, fun _ _ saved hsaved current path rule => ?_⟩
      · constructor
        · rintro ⟨⟩
          rfl
        · rintro ⟨⟩
          rfl
      · obtain ⟨mapped, -, hmaps⟩ := List.exists_of_forall₂_left (toSpoke_stripped hmapped) hsaved
        exact ⟨_, Rule.restoreInPlace_eq_ok hmaps current path rule⟩

/-- A stashed spec whose flag is set and whose only rule has the given raw preconditions. -/
def stashedRule (preconditions : Json) : Spec where
  rules := [{ name := "sample", preconditions := some preconditions }]
  schemaValidation := some true

/-- A spoke whose second rule goes with the only rule of `stashedRule`, by name. -/
def pairedSource : Spoke.Spec where
  rules := [{ name := "other" }, { name := "sample", preconditions := some {} }]

/-- Over rules of which one is paired, a stash that does not map changes nothing, and one that does
gives that rule back its own spelling. -/
theorem overlayInPlace_atomic_text :
    (stashedRule (.str "oops")).overlayInPlace pairedSource pairedSource.toHub = .error (.conditions
      ⟨(FieldPath.rules.index 0).child "preconditions", .notABlock⟩) pairedSource.toHub ∧
    (∃ spec, (stashedRule (.arr [])).overlayInPlace pairedSource pairedSource.toHub = .ok () spec ∧
      pairedSource.toHub.rules.map Rule.preconditions = [none, some (.obj [])] ∧
      spec.rules.map Rule.preconditions = [none, some (.arr [])]) ∧
    ∃ after, Rule.restoreInPlace { name := "sample", preconditions := some (.arr []) }
      { name := "sample" } (.root "elsewhere") { name := "sample" } = .ok () after := by
  have hstale : (stashedRule (.str "oops")).toSpoke = .error
      ⟨(FieldPath.rules.index 0).child "preconditions", .notABlock⟩ := by decide +kernel
  have hmaps : (stashedRule (.arr [])).toSpoke.any fun _ => true := by decide +kernel
  have hoverlays : (pairedSource.toHub.overlay (stashedRule (.arr [])) pairedSource).any fun spec =>
      decide (spec.rules.map Rule.preconditions = [none, some (.arr [])]) := by decide +kernel
  have hmapped : pairedSource.toHub.rules.map Rule.preconditions = [none, some (.obj [])] := by
    decide +kernel
  obtain ⟨remapped, hremapped, -⟩ := Except.any_iff.mp hmaps
  obtain ⟨spec, hoverlay, hrestored⟩ := Except.any_iff.mp hoverlays
  obtain ⟨hfails, hfault, -⟩ :=
    overlayInPlace_atomic (stashedRule (.str "oops")) pairedSource.toHub pairedSource
  obtain ⟨-, -, hgives, hunits⟩ :=
    overlayInPlace_atomic (stashedRule (.arr [])) pairedSource.toHub pairedSource
  refine ⟨(hfault _ _).mpr ⟨rfl, (hfails _).mpr ⟨_, hstale, rfl⟩⟩, ⟨spec, ?_, hmapped, ?_⟩, ?_⟩
  · exact (hgives spec).mpr hoverlay
  · exact of_decide_eq_true hrestored
  · exact hunits remapped hremapped _ (List.mem_singleton.mpr rfl) _ _ _

end Hub.Spec

end HubSpoke
