import HubSpoke.Proofs.Record.Fields
import HubSpoke.Proofs.Stash.Overlay

/-!
# What always maps

A spoke maps to the hub whatever it holds, and what it maps to maps back: the conditions that it was
rendered to are typed again, if not always as they were, because a condition may hold a null, which
reads as an absent value.  The same goes for a hub with a stash laid over it, whose every unit comes
from one of two rules that map.
-/

namespace HubSpoke

/-! ## Conditions -/

theorem Condition.encode_eq (c : Condition) :
    codec.encode c = .ofMembers ([("key", c.key), ("operator", .str c.operator)] ++
      c.value.toList.map (fun value => ("value", value)) ++
      if c.message = "" then [] else [("message", .str c.message)]) := by
  cases hvalue : c.value <;> by_cases hmessage : c.message = "" <;>
    simp [codec, Codec.record, Codec.recordWith, Functor.map, Seq.seq, Fields.seq, Fields.pure,
      Fields.shown, Fields.optional, Fields.text, Fields.hidden, Fields.field, Codec.json,
      Codec.text, hvalue, hmessage]

/-- The rendering of a condition decodes. -/
theorem Condition.exists_decode_encode (c : Condition) :
    ∃ again, codec.decode (codec.encode c) = .ok again := by
  have hkey : Codec.json.decode c.key = .ok c.key := rfl
  have hread (value : Json) : ∃ read, Codec.json.optional.decode value = .ok read := by
    cases value <;> exact ⟨_, rfl⟩
  rw [encode_eq]
  cases hvalue : c.value with
  | none =>
      refine ⟨{ c with value := none }, ?_⟩
      by_cases hmessage : c.message = "" <;>
        simp [codec, Codec.record, Codec.recordWith, Json.ofMembers, KeyMap.lookup_sort,
          Except.mapError, Functor.map, Seq.seq, Fields.seq, Fields.pure, Fields.shown,
          Fields.optional, Fields.text, Fields.hidden, Fields.field, List.lookup_cons, hkey,
          Codec.text, hmessage]
  | some value =>
      obtain ⟨read, hread⟩ := hread value
      refine ⟨{ c with value := read }, ?_⟩
      by_cases hmessage : c.message = "" <;>
        simp [codec, Codec.record, Codec.recordWith, Json.ofMembers, KeyMap.lookup_sort,
          Except.mapError, Functor.map, Seq.seq, Fields.seq, Fields.pure, Fields.shown,
          Fields.optional, Fields.text, Fields.hidden, Fields.field, List.lookup_cons, hkey,
          Codec.text, hread, hmessage]

theorem ConditionBlock.encode_eq (block : ConditionBlock) :
    codec.encode block = .ofMembers (
      (if block.any = [] then [] else [("any", Condition.codec.list.encode block.any)]) ++
      if block.all = [] then [] else [("all", Condition.codec.list.encode block.all)]) := by
  by_cases hany : block.any = [] <;> by_cases hall : block.all = [] <;>
    simp [codec, Codec.record, Codec.recordWith, Functor.map, Seq.seq, Fields.seq, Fields.pure,
      Fields.list, Fields.field, hany, hall]

theorem ConditionBlock.exists_spelledBy_toRaw (block : ConditionBlock) :
    ∃ again, SpelledBy block.toRaw again := by
  have hlist (items : List Condition) : ∃ again, Condition.codec.list.decode
      (Condition.codec.list.encode items) = .ok again := by
    obtain ⟨again, hagain⟩ := List.exists_forall₂ fun c (_ : c ∈ items) =>
      Condition.exists_decode_encode c
    refine ⟨again, Except.mapM_eq_ok_iff.mpr ?_⟩
    exact List.forall₂_map_left_iff.mpr hagain
  obtain ⟨any, hany⟩ := hlist block.any
  obtain ⟨all, hall⟩ := hlist block.all
  have hdecode : ∃ again, codec.decode (codec.encode block) = .ok again := by
    rw [encode_eq]
    by_cases hnoAny : block.any = [] <;> by_cases hnoAll : block.all = [] <;>
      simp [codec, Codec.record, Codec.recordWith, Json.ofMembers, KeyMap.lookup_sort,
        Except.mapError, Functor.map, Seq.seq, Fields.seq, Fields.pure, Fields.list, Fields.field,
        List.lookup_cons, hany, hall, hnoAny, hnoAll]
  obtain ⟨again, hagain⟩ := hdecode
  exact ⟨again, Except.mapError_eq_ok_iff.mpr hagain⟩

/-! ## Rules -/

/-- A rule maps when those of its units do that hold conditions. -/
theorem Hub.Rule.exists_mapsTo {r : Rule} {preconditions : Option ConditionBlock}
    {validation : Option Spoke.Validation} {mutation : Option Spoke.Mutation}
    (hpreconditions : Option.Rel ConditionBlock.SpelledBy r.preconditions preconditions)
    (hvalidation : Option.Rel Validation.MapsTo r.validation validation)
    (hmutation : Option.Rel Mutation.MapsTo r.mutation mutation) : ∃ x, r.MapsTo x := by
  let x : Spoke.Rule := {
    name := r.name
    matchBlock := r.matchBlock.toSpoke
    exclude := r.exclude.map MatchBlock.toSpoke
    context := r.context
    preconditions
    validation
    mutation
    generation := r.generation.map Generation.toSpoke
    verifyImages := r.verifyImages.map ImageVerification.toSpoke }
  exact ⟨x, hpreconditions, hvalidation, hmutation, rfl⟩

namespace Spoke

theorem Deny.exists_mapsTo (d : Deny) : ∃ x, d.toHub.MapsTo x := by
  obtain ⟨conditions, hconditions⟩ :=
    Option.exists_rel_map d.conditions ConditionBlock.exists_spelledBy_toRaw
  exact ⟨{ conditions }, hconditions⟩

theorem Validation.exists_mapsTo (v : Validation) : ∃ x, v.toHub.MapsTo x := by
  obtain ⟨deny, hdeny⟩ := Option.exists_rel_map v.deny Deny.exists_mapsTo
  exact ⟨{ v with action := none, deny, overrides := [] }, hdeny, rfl⟩

theorem MutationTarget.exists_mapsTo (t : MutationTarget) : ∃ x, t.toHub.MapsTo x := by
  obtain ⟨preconditions, hpreconditions⟩ :=
    Option.exists_rel_map t.preconditions ConditionBlock.exists_spelledBy_toRaw
  exact ⟨{ t with preconditions }, hpreconditions, rfl⟩

theorem Mutation.exists_mapsTo (m : Mutation) : ∃ x, m.toHub.MapsTo x := by
  obtain ⟨targets, htargets⟩ : ∃ targets, List.Forall₂ Hub.MutationTarget.MapsTo
      (m.targets.map MutationTarget.toHub) targets :=
    List.exists_forall₂ (List.forall_mem_map.mpr fun target _ => target.exists_mapsTo)
  exact ⟨{ m with mutateExisting := false, targets }, htargets, rfl⟩

theorem Rule.exists_mapsTo (rule : Rule) : ∃ x, rule.toHub.MapsTo x := by
  obtain ⟨preconditions, hpreconditions⟩ :=
    Option.exists_rel_map rule.preconditions ConditionBlock.exists_spelledBy_toRaw
  obtain ⟨validation, hvalidation⟩ := Option.exists_rel_map rule.validation Validation.exists_mapsTo
  obtain ⟨mutation, hmutation⟩ := Option.exists_rel_map rule.mutation Mutation.exists_mapsTo
  exact Hub.Rule.exists_mapsTo hpreconditions hvalidation hmutation

end Spoke

namespace Hub

theorem exists_ite {α β : Type} {R : α → β → Prop} {p : Prop} [Decidable p] {a b : α} {c d : β}
    (ha : R a c) (hb : R b d) : ∃ e, R (if p then a else b) e := by
  split
  · exact ⟨c, ha⟩
  · exact ⟨d, hb⟩

/-- Where units are restored, each comes from a rule that maps. -/
theorem Rule.exists_restoreUnits_mapsTo {fresh saved : Rule} {mapped current x y : Spoke.Rule}
    (hsaved : saved.MapsTo x) (hfresh : fresh.MapsTo y) :
    ∃ z, (fresh.restoreUnits saved mapped current).MapsTo z := by
  let restored := fresh.restoreUnits saved mapped current
  obtain ⟨_, hpreconditions⟩ : ∃ block, Option.Rel ConditionBlock.SpelledBy
      restored.preconditions block := exists_ite hsaved.preconditions hfresh.preconditions
  obtain ⟨_, hvalidation⟩ : ∃ block, Option.Rel Validation.MapsTo restored.validation block :=
    exists_ite hsaved.validation hfresh.validation
  obtain ⟨_, hmutation⟩ : ∃ block, Option.Rel Mutation.MapsTo restored.mutation block :=
    exists_ite hsaved.mutation hfresh.mutation
  exact exists_mapsTo hpreconditions hvalidation hmutation

end Hub

/-! ## Specs -/

theorem Spoke.Spec.exists_toSpoke_toHub (spec : Spec) :
    ∃ again, spec.toHub.toSpoke = .ok again := by
  obtain ⟨rules, hrules⟩ : ∃ rules, List.Forall₂ Hub.Rule.MapsTo
      (spec.rules.map Rule.toHub) rules :=
    List.exists_forall₂ (List.forall_mem_map.mpr fun rule _ => rule.exists_mapsTo)
  exact ⟨_, Hub.Spec.toSpoke_eq_ok_iff.mpr ⟨rules, hrules, rfl⟩⟩

namespace Hub.Spec

variable {restored : Spec}

/-- A stash that maps can be laid over any spoke. -/
theorem exists_overlay {remapped : Spoke.Spec} (h : restored.toSpoke = .ok remapped) (spec : Spec)
    (source : Spoke.Spec) : ∃ back, spec.overlay restored source = .ok back := by
  simp [overlay, h, Except.mapError, bind, Except.bind, pure, Except.pure]

theorem exists_toSpoke_overlay {back : Spec} {source : Spoke.Spec}
    (h : source.toHub.overlay restored source = .ok back) :
    ∃ again, back.toSpoke = .ok again := by
  obtain ⟨remapped, hremapped, heq⟩ := Except.bind_eq_ok_iff.mp h
  obtain rfl := Except.ok.inj heq
  have hstash := toSpoke_stripped (Except.mapError_eq_ok_iff.mp hremapped)
  obtain ⟨rules, hrules⟩ : ∃ rules, List.Forall₂ Rule.MapsTo
      (overlayRules source.toHub.rules (restored.rules.zip remapped.rules) source.rules) rules := by
    refine List.exists_forall₂ (List.forall_mem_map.mpr fun (rule, position) hitem => ?_)
    obtain ⟨current, -, hcurrent⟩ := List.mem_map.mp (List.fst_mem_of_mem_zipIdx hitem)
    obtain ⟨x, hx⟩ := current.exists_mapsTo
    rw [hcurrent] at hx
    -- the rule is a fresh one, or has units of its stashed counterpart
    dsimp only
    split
    next hsaved =>
      have hpair := List.forall₂_zip hstash (mem_of_counterpart? hsaved)
      exact Rule.exists_restoreUnits_mapsTo hpair hx
    next => exact ⟨x, hx⟩
  refine ⟨_, toSpoke_eq_ok_iff.mpr ⟨rules, ?_, rfl⟩⟩
  split <;> exact hrules

end Hub.Spec

end HubSpoke
