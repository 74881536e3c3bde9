import HubSpoke.Proofs.Policy.Codecs

/-!
# Reading a document with other floats

A stash may spell a float as a whole number, so what was read once may be read again from a
document whose floats are other numbers.  A codec that keeps numbers as they are, without looking at
them, reads there what it read before, with the floats in it replaced in the same way.
-/

namespace HubSpoke

variable {σ α : Type} {change : Binary64 → Json} {follow : α → α} {codec : Codec α}

/-- Floats that are replaced in a document are replaced in what is read from it. -/
def Codec.Follows (codec : Codec α) (change : Binary64 → Json) (follow : α → α) : Prop :=
  ∀ (document : Json) (value : α), codec.decode document = .ok value →
    codec.decode (document.mapFloats change) = .ok (follow value)

/-- A field follows when its codec does and its default holds no float. -/
theorem Fields.build_mapFloats {name : String} {absent : Option α} {render : α → Option Json}
    {get : σ → α} {given : List (String × Json)} {value : α} (hcodec : codec.Follows change follow)
    (habsent : ∀ value, absent = some value → follow value = value)
    (h : (field name codec.decode absent render get).build given = .ok value) :
    (field name codec.decode absent render get).build
      (given.map fun member => (member.1, member.2.mapFloats change)) = .ok (follow value) := by
  simp only [field, KeyMap.lookup_map_values (Json.mapFloats change)] at h ⊢
  cases hlookup : given.lookup name with
  | some document =>
      rw [hlookup] at h
      exact Except.mapError_eq_ok_iff.mpr (hcodec _ _ (Except.mapError_eq_ok_iff.mp h))
  | none =>
      rw [hlookup] at h
      cases absent with
      | none => cases h
      | some default =>
          obtain rfl := Except.ok.inj h
          exact congrArg Except.ok (habsent _ rfl).symm

namespace Codec.Follows

theorem json : Codec.json.Follows change (Json.mapFloats change) := by
  intro document value h
  obtain rfl := Except.ok.inj h
  rfl

theorem text : Codec.text.Follows change id := by
  intro document value h
  cases document with
  | str => exact h
  | _ => cases h

theorem optional (hchange : Json.Numeric change) (h : codec.Follows change follow) :
    codec.optional.Follows change (Option.map follow) := by
  intro document value hdecode
  by_cases hnull : document = .null
  · subst hnull
    obtain rfl := Except.ok.inj hdecode
    rfl
  · have hinner : ∃ a, codec.decode document = .ok a ∧ some a = value := by
      simpa [Codec.optional, hnull, Except.map_eq_ok_iff] using hdecode
    obtain ⟨a, ha, rfl⟩ := hinner
    simp [Codec.optional, Json.mapFloats_ne_null hchange hnull, h _ _ ha, Except.map]

theorem list (h : codec.Follows change follow) : codec.list.Follows change (List.map follow) := by
  intro document values hdecode
  obtain ⟨items, rfl, hitems⟩ := Lawful.items_of_list hdecode
  rw [Json.mapFloats_arr]
  refine Except.mapM_eq_ok_iff.mpr ?_
  rw [List.forall₂_map_left_iff, List.forall₂_map_right_iff]
  exact (Except.mapM_eq_ok_iff.mp hitems).imp fun _ _ hitem => h _ _ hitem

/-- A record follows when its fields do, whichever form it is spelled in. -/
theorem record {typeName : String} {fields : Fields σ σ} {follow : σ → σ}
    (hfields : ∀ {given value}, fields.Builds given (· = value) →
      fields.Builds (given.map fun member => (member.1, member.2.mapFloats change))
        (· = follow value)) : (Codec.record typeName fields).Follows change follow := by
  have hbuild {given : List (String × Json)} {value : σ} (h : fields.build given = .ok value) :
      fields.build (given.map fun member => (member.1, member.2.mapFloats change)) =
        .ok (follow value) := by
    obtain ⟨_, hbuild, rfl⟩ := hfields ⟨value, h, rfl⟩
    exact hbuild
  intro document value hdecode
  cases document with
  | obj members =>
      rw [Json.mapFloats_obj]
      exact Except.mapError_eq_ok_iff.mpr (hbuild (Except.mapError_eq_ok_iff.mp hdecode))
  | arr items =>
      have hzip : fields.names.zip (items.map (Json.mapFloats change)) =
          (fields.names.zip items).map fun member => (member.1, member.2.mapFloats change) :=
        List.zip_map_right ..
      simp only [Codec.record, Codec.recordWith, Json.mapFloats_arr, List.length_map, hzip]
        at hdecode ⊢
      split at hdecode
      case isTrue => cases hdecode
      case isFalse hobject =>
        rw [if_neg hobject]
        split at hdecode
        case h_1 => cases hdecode
        case h_2 built hbuilt =>
          rw [hbuild hbuilt]
          split at hdecode
          case isTrue => cases hdecode
          case isFalse hlength =>
            obtain rfl := Except.ok.inj hdecode
            exact if_neg hlength
  | _ => cases hdecode

end Codec.Follows

/-! ## Conditions -/

open Codec (Follows)

variable (hchange : Json.Numeric change)
include hchange

theorem Condition.codec_follows : Condition.codec.Follows change (mapFloats change) := by
  apply Follows.record
  intro given value hbuild
  simp only [Fields.builds_seq, Fields.builds_map, Fields.text] at hbuild ⊢
  obtain ⟨key, hkey, operator, hoperator, value, hvalue, message, hmessage, rfl⟩ := hbuild
  exact ⟨_, Fields.build_mapFloats Follows.json (by simp) hkey,
    _, Fields.build_mapFloats Follows.text (by simp) hoperator,
    _, Fields.build_mapFloats (Follows.optional hchange Follows.json) (by simp) hvalue,
    _, Fields.build_mapFloats Follows.text (by simp) hmessage, rfl⟩

theorem ConditionBlock.codec_follows : ConditionBlock.codec.Follows change (mapFloats change) := by
  apply Follows.record
  intro given value hbuild
  simp only [Fields.builds_seq, Fields.builds_map] at hbuild ⊢
  obtain ⟨any, hany, all, hall, rfl⟩ := hbuild
  have hitems := Condition.codec_follows hchange
  exact ⟨_, Fields.build_mapFloats (Follows.list hitems) (by simp) hany,
    _, Fields.build_mapFloats (Follows.list hitems) (by simp) hall, rfl⟩

end HubSpoke
