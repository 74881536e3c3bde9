import HubSpoke.Proofs.Hub.Codecs
import HubSpoke.Proofs.Mapping.Total
import HubSpoke.Proofs.Record.Floats
import HubSpoke.Proofs.Spoke.Codecs

/-!
# Mapping with other floats

Whether raw conditions type does not depend on the floats in them.  So a hub that maps still maps
when it comes out of a stash, where some of its floats may have become whole numbers.
-/

namespace HubSpoke

variable {change : Binary64 → Json}

theorem rel_mapFloats {α β : Type} [HoldsFloats α] [HoldsFloats β] {R : α → β → Prop}
    {item : Option α} {result : Option β} (h : Option.Rel R item result)
    (hpair : ∀ {a b}, R a b → R (mapFloats change a) (mapFloats change b)) :
    Option.Rel R (mapFloats change item) (mapFloats change result) := by
  cases h with
  | none => exact .none
  | some hrel => exact .some (hpair hrel)

variable (hchange : Json.Numeric change)
include hchange

theorem ConditionBlock.spelledBy_mapFloats {raw : Json} {block : ConditionBlock}
    (h : SpelledBy raw block) : SpelledBy (mapFloats change raw) (mapFloats change block) := by
  change SpelledBy (raw.mapFloats change) _
  cases raw with
  | null =>
      obtain rfl := Except.ok.inj h
      rfl
  | arr items =>
      obtain ⟨any, hany, rfl⟩ := Except.map_eq_ok_iff.mp h
      have hitems := Codec.Follows.list (Condition.codec_follows hchange) _ _
        (Except.mapError_eq_ok_iff.mp hany)
      rw [Json.mapFloats_arr] at hitems ⊢
      exact Except.map_eq_ok_iff.mpr ⟨_, Except.mapError_eq_ok_iff.mpr hitems, rfl⟩
  | obj members =>
      have hblock := ConditionBlock.codec_follows hchange _ _ (Except.mapError_eq_ok_iff.mp h)
      rw [Json.mapFloats_obj] at hblock ⊢
      exact Except.mapError_eq_ok_iff.mpr hblock
  | _ => cases h

namespace Hub

open ConditionBlock (spelledBy_mapFloats)

theorem Deny.mapsTo_mapFloats {d : Deny} {x : Spoke.Deny} (h : d.MapsTo x) :
    (mapFloats change d).MapsTo (mapFloats change x) :=
  rel_mapFloats h (spelledBy_mapFloats hchange)

theorem Validation.mapsTo_mapFloats {v : Validation} {x : Spoke.Validation} (h : v.MapsTo x) :
    (mapFloats change v).MapsTo (mapFloats change x) where
  deny := rel_mapFloats h.deny (Deny.mapsTo_mapFloats hchange)
  rest := by
    conv_lhs => rw [h.rest]
    rfl

theorem MutationTarget.mapsTo_mapFloats {t : MutationTarget} {x : Spoke.MutationTarget}
    (h : t.MapsTo x) : (mapFloats change t).MapsTo (mapFloats change x) where
  preconditions := rel_mapFloats h.preconditions (spelledBy_mapFloats hchange)
  rest := by
    conv_lhs => rw [h.rest]
    rfl

theorem Mutation.mapsTo_mapFloats {m : Mutation} {x : Spoke.Mutation} (h : m.MapsTo x) :
    (mapFloats change m).MapsTo (mapFloats change x) where
  targets := by
    refine List.forall₂_map_left_iff.mpr (List.forall₂_map_right_iff.mpr ?_)
    exact h.targets.imp fun _ _ => MutationTarget.mapsTo_mapFloats hchange
  rest := by
    conv_lhs => rw [h.rest]
    rfl

theorem Rule.exists_mapsTo_mapFloats {r : Rule} {x : Spoke.Rule} (h : r.MapsTo x) :
    ∃ y, (mapFloats change r).MapsTo y :=
  Rule.exists_mapsTo (rel_mapFloats h.preconditions (spelledBy_mapFloats hchange))
    (rel_mapFloats h.validation (Validation.mapsTo_mapFloats hchange))
    (rel_mapFloats h.mutation (Mutation.mapsTo_mapFloats hchange))

/-- A hub spec that maps does so with other floats. -/
theorem Spec.exists_toSpoke_mapFloats {s : Spec} {x : Spoke.Spec} (h : s.toSpoke = .ok x) :
    ∃ y, (mapFloats change s).toSpoke = .ok y := by
  obtain ⟨mapped, hmapped, -⟩ := toSpoke_eq_ok_iff.mp h
  obtain ⟨rules, hrules⟩ : ∃ rules, List.Forall₂ Rule.MapsTo (s.rules.map (mapFloats change))
      rules := by
    refine List.exists_forall₂ (List.forall_mem_map.mpr fun rule hrule => ?_)
    obtain ⟨_, -, hmaps⟩ := List.exists_of_forall₂_left hmapped hrule
    exact Rule.exists_mapsTo_mapFloats hchange hmaps
  exact ⟨_, toSpoke_eq_ok_iff.mpr ⟨rules, hrules, rfl⟩⟩

end Hub

end HubSpoke
