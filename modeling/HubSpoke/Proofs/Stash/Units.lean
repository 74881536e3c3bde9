import HubSpoke.Proofs.Mapping.RoundTrip
import Mathlib.Data.List.Nodup

/-!
# Units of rules

Seven parts of a rule are compared and restored as wholes.  A stashed rule puts back each unit that
maps to what the source holds, whatever became of the others; and where rule names are distinct, the
stashed rule is the one of the same name, wherever the rule stands now.
-/

namespace HubSpoke

/-- The parts of a rule that are restored as wholes. -/
inductive RuleUnit where
  | matchBlock
  | exclude
  | preconditions
  | validation
  | mutation
  | generation
  | verifyImages
deriving DecidableEq, Repr

/-- Two hub rules have the same unit. -/
def Hub.Rule.SameUnit (rule other : Rule) : RuleUnit → Prop
  | .matchBlock => rule.matchBlock = other.matchBlock
  | .exclude => rule.exclude = other.exclude
  | .preconditions => rule.preconditions = other.preconditions
  | .validation => rule.validation = other.validation
  | .mutation => rule.mutation = other.mutation
  | .generation => rule.generation = other.generation
  | .verifyImages => rule.verifyImages = other.verifyImages

/-- Two spoke rules have the same unit, up to routed values and overrides. -/
def Spoke.Rule.SameUnit (rule other : Rule) : RuleUnit → Prop
  | .matchBlock => rule.stripped.matchBlock = other.stripped.matchBlock
  | .exclude => rule.stripped.exclude = other.stripped.exclude
  | .preconditions => rule.stripped.preconditions = other.stripped.preconditions
  | .validation => rule.stripped.validation = other.stripped.validation
  | .mutation => rule.stripped.mutation = other.stripped.mutation
  | .generation => rule.stripped.generation = other.stripped.generation
  | .verifyImages => rule.stripped.verifyImages = other.stripped.verifyImages

namespace Spoke.Rule

variable {rule other : Rule} {unit : RuleUnit}

theorem SameUnit.symm (h : rule.SameUnit other unit) : other.SameUnit rule unit := by
  cases unit <;> exact Eq.symm h

theorem SameUnit.of_stripped {third : Rule} (h : rule.SameUnit other unit)
    (hstripped : third.stripped = other.stripped) : rule.SameUnit third unit := by
  cases unit <;> simpa only [SameUnit, hstripped] using h

/-- A unit is mapped on its own. -/
theorem SameUnit.toHub (h : rule.SameUnit other unit) : rule.toHub.SameUnit other.toHub unit := by
  rw [← toHub_stripped rule, ← toHub_stripped other]
  cases unit with
  | matchBlock => exact congrArg MatchBlock.toHub h
  | exclude => exact congrArg (Option.map MatchBlock.toHub) h
  | preconditions => exact congrArg (Option.map ConditionBlock.toRaw) h
  | validation => exact congrArg (Option.map Validation.toHub) h
  | mutation => exact congrArg (Option.map Mutation.toHub) h
  | generation => exact congrArg (Option.map Generation.toHub) h
  | verifyImages => exact congrArg (List.map ImageVerification.toHub) h

end Spoke.Rule

namespace Hub.Rule

theorem sameUnit_refl (rule : Rule) (unit : RuleUnit) : rule.SameUnit rule unit := by
  cases unit <;> rfl

/-- A stashed rule puts back each unit that maps to the unit of the source. -/
theorem sameUnit_restoreUnits {fresh saved : Rule} {mapped current : Spoke.Rule} {unit : RuleUnit}
    (h : mapped.SameUnit current unit) :
    (fresh.restoreUnits saved mapped current).SameUnit saved unit := by
  cases unit <;> simp only [Spoke.Rule.SameUnit] at h <;> simp [SameUnit, restoreUnits, h, sameData]

end Hub.Rule

/-! ## Rules of distinct names -/

/-- Among stashed rules of distinct names, the one of the name is found from every position. -/
theorem counterpart?_eq_some {ρ : Type} {nameOf : ρ → String} {stashed : List ρ} {rule : ρ}
    {name : String} (hnames : (stashed.map nameOf).Nodup) (hrule : rule ∈ stashed)
    (hname : nameOf rule = name) (position : Nat) :
    counterpart? nameOf stashed position name = some rule := by
  have hfound : (stashed.find? fun rule => nameOf rule = name) = some rule := by
    cases hfind : stashed.find? fun rule => nameOf rule = name with
    | none =>
        have hnone := List.find?_eq_none.mp hfind rule hrule
        exact absurd hname (by simpa using hnone)
    | some found =>
        have hother : nameOf found = name := by simpa using List.find?_some hfind
        rw [List.inj_on_of_nodup_map hnames (List.mem_of_find?_eq_some hfind) hrule
          (hother.trans hname.symm)]
  -- the rule at the position is tried first, and is the one sought where it has the name
  rw [counterpart?]
  split
  case h_1 other hother =>
    split
    case isTrue heq =>
      rw [List.inj_on_of_nodup_map hnames (List.mem_of_getElem? hother) hrule
        (heq.trans hname.symm)]
    case isFalse => exact hfound
  case h_2 => exact hfound

/-- So which rule is found depends on names alone, and not on positions. -/
theorem counterpart?_eq_some_iff {ρ : Type} {nameOf : ρ → String} {stashed : List ρ} {rule : ρ}
    {name : String} (hnames : (stashed.map nameOf).Nodup) (position : Nat) :
    counterpart? nameOf stashed position name = some rule ↔
      rule ∈ stashed ∧ nameOf rule = name := by
  constructor
  · intro h
    exact ⟨mem_of_counterpart? h, name_of_counterpart? h⟩
  · rintro ⟨hrule, hname⟩
    exact counterpart?_eq_some hnames hrule hname position

end HubSpoke
