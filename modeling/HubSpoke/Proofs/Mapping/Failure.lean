import HubSpoke.Proofs.Mapping.ToSpoke

/-!
# Why a hub does not map

A hub spec does not map to the spoke where a raw condition block in it does not type, and it is
the first such block that is told, with its full path.  `Spec.rawBlocks` lists the blocks in the
order in which they are tried, so the fault that mapping tells is the first of the list.

`Reports` says this of a step and the blocks it tries; the blocks of steps taken one after the other
are tried one after the other.
-/

namespace HubSpoke

/-! ## The first malformed block -/

namespace ConditionBlock

/-- The fault of the raw value at a path, if it is no condition block. -/
def malformed? (block : FieldPath × Json) : Option MalformedConditions :=
  match ofRaw block.2 with
  | .ok _ => none
  | .error fault => some ⟨block.1, fault⟩

end ConditionBlock

/-- The fault is that of the first block of a list that does not type. -/
def FirstMalformed (blocks : List (FieldPath × Json)) (cause : MalformedConditions) : Prop :=
  blocks.findSome? ConditionBlock.malformed? = some cause

variable {blocks more : List (FieldPath × Json)} {cause : MalformedConditions}

/-- Some fault is the first wherever there is one at all. -/
theorem exists_firstMalformed_iff :
    (∃ cause, FirstMalformed blocks cause) ↔
      ∃ block ∈ blocks, ∃ fault, ConditionBlock.ofRaw block.2 = .error fault := by
  simp only [FirstMalformed, ← Option.isSome_iff_exists, List.findSome?_isSome_iff]
  refine exists_congr fun block => and_congr_right fun _ => ?_
  cases h : ConditionBlock.ofRaw block.2 <;> simp [ConditionBlock.malformed?, h]

/-! ## Steps that report it -/

variable {α β : Type}

/-- The step fails just with the first fault of the blocks that it tries. -/
def Reports (step : Except MalformedConditions α) (blocks : List (FieldPath × Json)) : Prop :=
  ∀ cause, step = .error cause ↔ FirstMalformed blocks cause

namespace Reports

variable {step : Except MalformedConditions α}

theorem pure (value : α) : Reports (Pure.pure value) [] := by
  intro cause
  simp [FirstMalformed, Pure.pure, Except.pure]

theorem map {f : α → β} (h : Reports step blocks) : Reports (step.map f) blocks := by
  intro cause
  rw [← h cause]
  cases step <;> simp [Except.map]

/-- What is tried after a step counts once the step has given a result. -/
theorem bind {f : α → Except MalformedConditions β} (h : Reports step blocks)
    (hnext : ∀ value, Reports (f value) more) : Reports (step >>= f) (blocks ++ more) := by
  intro cause
  rw [FirstMalformed, List.findSome?_append]
  cases step with
  | error first =>
      have hfirst : blocks.findSome? ConditionBlock.malformed? = some first := (h first).mp rfl
      simp [hfirst, Bind.bind, Except.bind]
  | ok value =>
      have hnone : blocks.findSome? ConditionBlock.malformed? = none :=
        Option.eq_none_iff_forall_ne_some.mpr fun first hfirst => nomatch (h first).mpr hfirst
      rw [hnone, Option.none_or]
      exact hnext value cause

/-- A step whose result is only put into something larger. -/
theorem bind_pure {f : α → β} (h : Reports step blocks) :
    Reports (step >>= fun value => Pure.pure (f value)) blocks := by
  simpa using h.bind fun value => pure (f value)

theorem mapM {γ : Type} {f : γ → Except MalformedConditions α}
    {blocksOf : γ → List (FieldPath × Json)} (h : ∀ item, Reports (f item) (blocksOf item))
    (items : List γ) : Reports (items.mapM f) (items.flatMap blocksOf) := by
  induction items with
  | nil => exact pure []
  | cons item rest ih =>
      rw [List.mapM_cons, List.flatMap_cons]
      exact (h item).bind fun first => ih.bind_pure

theorem optionMapM {γ : Type} {f : γ → Except MalformedConditions α}
    {blocksOf : γ → List (FieldPath × Json)} (h : ∀ item, Reports (f item) (blocksOf item))
    (item : Option γ) : Reports (item.mapM f) (item.toList.flatMap blocksOf) := by
  cases item with
  | none => exact pure none
  | some item =>
      have hitem : Reports (some <$> f item) (blocksOf item) := (h item).map
      simpa using hitem

theorem ofField (path : FieldPath) (raw : Option Json) :
    Reports (ConditionBlock.ofField path raw) (raw.toList.map (path, ·)) := by
  intro cause
  cases raw with
  | none => simp [ConditionBlock.ofField, FirstMalformed]
  | some raw =>
      cases h : ConditionBlock.ofRaw raw <;>
        simp [ConditionBlock.ofField, FirstMalformed, ConditionBlock.malformed?, h, Except.map,
          Except.mapError]

end Reports

/-! ## The blocks of a hub -/

namespace Hub

/-- The raw block of a deny block, under its path. -/
def Deny.rawBlocks (path : FieldPath) (d : Deny) : List (FieldPath × Json) :=
  d.conditions.toList.map (path.child "conditions", ·)

theorem Deny.reports (path : FieldPath) (d : Deny) :
    Reports (d.toSpoke path) (d.rawBlocks path) :=
  (Reports.ofField (path.child "conditions") d.conditions).map

/-- The raw block of a validation block, under its path. -/
def Validation.rawBlocks (path : FieldPath) (v : Validation) : List (FieldPath × Json) :=
  v.deny.toList.flatMap (Deny.rawBlocks (path.child "deny"))

theorem Validation.reports (path : FieldPath) (v : Validation) :
    Reports (v.toSpoke path) (v.rawBlocks path) :=
  (Reports.optionMapM (Deny.reports (path.child "deny")) v.deny).bind_pure

/-- The raw block of a mutation target, under its path. -/
def MutationTarget.rawBlocks (path : FieldPath) (t : MutationTarget) : List (FieldPath × Json) :=
  t.preconditions.toList.map (path.child "preconditions", ·)

theorem MutationTarget.reports (path : FieldPath) (t : MutationTarget) :
    Reports (t.toSpoke path) (t.rawBlocks path) :=
  (Reports.ofField (path.child "preconditions") t.preconditions).map

/-- The raw blocks of a mutation block, under its path: those of its targets. -/
def Mutation.rawBlocks (path : FieldPath) (m : Mutation) : List (FieldPath × Json) :=
  m.targets.zipIdx.flatMap fun (target, position) =>
    target.rawBlocks ((path.child "targets").index position)

theorem Mutation.reports (path : FieldPath) (m : Mutation) :
    Reports (m.toSpoke path) (m.rawBlocks path) :=
  (Reports.mapM (fun (target, position) =>
    target.reports ((path.child "targets").index position)) m.targets.zipIdx).bind_pure

/-- The raw blocks of a rule, under its path: its preconditions, what it denies, and the
preconditions of what it mutates. -/
def Rule.rawBlocks (path : FieldPath) (r : Rule) : List (FieldPath × Json) :=
  r.preconditions.toList.map (path.child "preconditions", ·) ++
    (r.validation.toList.flatMap (Validation.rawBlocks (path.child "validate")) ++
      r.mutation.toList.flatMap (Mutation.rawBlocks (path.child "mutate")))

theorem Rule.reports (path : FieldPath) (r : Rule) :
    Reports (r.toSpoke path) (r.rawBlocks path) := by
  refine (Reports.ofField (path.child "preconditions") r.preconditions).bind fun _ => ?_
  refine (Reports.optionMapM (Validation.reports (path.child "validate")) r.validation).bind
    fun _ => ?_
  exact (Reports.optionMapM (Mutation.reports (path.child "mutate")) r.mutation).bind_pure

/-- The raw blocks of a spec, rule by rule. -/
def Spec.rawBlocks (s : Spec) : List (FieldPath × Json) :=
  s.rules.zipIdx.flatMap fun (rule, position) => rule.rawBlocks (FieldPath.rules.index position)

/-- A spec does not map where one of its raw blocks does not type, and the first of these is
told. -/
theorem Spec.toSpoke_eq_error_iff {s : Spec} {cause : MalformedConditions} :
    s.toSpoke = .error cause ↔ FirstMalformed s.rawBlocks cause :=
  (Reports.mapM (fun (rule, position) =>
    (rule.reports (FieldPath.rules.index position)).map) s.rules.zipIdx).bind_pure cause

end Hub

end HubSpoke
