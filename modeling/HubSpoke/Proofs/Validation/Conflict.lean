import HubSpoke.Proofs.Validation.Evaluation
import HubSpoke.Proofs.Validation.Wording

/-!
# Conflicts, found and met

A block that uses both lists, or an inline filter beside a list, cannot be evaluated.  The validator
decides on its own which blocks those are, and tells it of the block itself, as it does of an inline
filter: only the wording sets the one apart from the other.  But no other defect is worded as a
conflict is, and none of the checks on filters finds a conflict; what is left are the two findings
that stand first.
-/

namespace HubSpoke

/-! ## Conflicts among the findings -/

/-- The defect is one that keeps a block from being evaluated. -/
def Defect.isConflict : Defect → Bool
  | .anyAndAll | .inlineWithLists => true
  | _ => false

/-- Only conflicts are worded as conflicts. -/
theorem Defect.isConflict_iff {defect : Defect} :
    defect.isConflict ↔
      ∃ conflict : MatchView.Conflict, defect.message = conflict.defect.message := by
  constructor
  · intro h
    cases defect with
    | anyAndAll => exact ⟨.anyAndAll, rfl⟩
    | inlineWithLists => exact ⟨.inlineWithLists, rfl⟩
    | _ => cases h
  · rintro ⟨conflict, h⟩
    have hletters : conflict.defect.hasOwnLetters := by cases conflict <;> decide +kernel
    rw [eq_of_message_eq hletters h]
    cases conflict <;> rfl

/-- None of the defects of filters is a conflict. -/
theorem Defect.isConflict_of_isOfFilter {defect : Defect} (h : defect.isOfFilter) :
    defect.isConflict = false := by
  cases defect <;> first | rfl | cases h

/-! ## Where evaluation and validation meet -/

theorem Finding.eq_of_mem_require {met : Bool} {path : FieldPath} {defect : Defect}
    {finding : Finding} (h : finding ∈ require met path defect) : finding = ⟨path, defect⟩ := by
  cases met with
  | true => simp [require] at h
  | false => exact List.mem_singleton.mp h

/-- The finding stands at the path and is worded as a conflict is. -/
def Finding.TellsConflict (path : FieldPath) (finding : Finding) : Prop :=
  finding.path = path ∧
    ∃ conflict : MatchView.Conflict, finding.defect.message = conflict.defect.message

theorem Finding.tellsConflict_iff {path : FieldPath} {finding : Finding} :
    finding.TellsConflict path ↔ finding.path = path ∧ finding.defect.isConflict := by
  rw [TellsConflict, ← Defect.isConflict_iff]

namespace MatchView

variable {σ : Type} {verdict : Verdict σ} {state : σ} {view : MatchView}
  {context : MatchContext} {path : FieldPath}

theorem tellsConflict_of_mem {finding : Finding} (h : finding ∈ view.conflictFindings path) :
    finding.TellsConflict path := by
  rcases List.mem_append.mp h with h | h <;> rw [Finding.eq_of_mem_require h]
  · exact ⟨rfl, .anyAndAll, rfl⟩
  · exact ⟨rfl, .inlineWithLists, rfl⟩

theorem not_tellsConflict_of_mem {finding : Finding}
    (h : finding ∈ view.filterFindings context path) : ¬ finding.TellsConflict path := by
  rw [Finding.tellsConflict_iff]
  simp [Defect.isConflict_of_isOfFilter (view.ofFilters context path finding h)]

theorem exists_tellsConflict_iff :
    (∃ finding ∈ view.findings context path, finding.TellsConflict path) ↔
      view.conflictFindings path ≠ [] := by
  rw [findings_eq]
  constructor
  · rintro ⟨finding, hfinding, htells⟩
    rcases List.mem_append.mp hfinding with hconflict | hother
    · exact List.ne_nil_of_mem hconflict
    · exact absurd htells (not_tellsConflict_of_mem hother)
  · intro hne
    obtain ⟨finding, hfinding⟩ := List.exists_mem_of_ne_nil _ hne
    exact ⟨finding, List.mem_append_left _ hfinding, tellsConflict_of_mem hfinding⟩

theorem Evaluates.conflictFindings_eq_nil_iff {result : Except Conflict Bool}
    {filters : List Hub.ResourceFilter} (h : view.Evaluates verdict state result filters) :
    view.conflictFindings path = [] ↔ ∀ conflict, result ≠ .error conflict := by
  cases h with
  | both hany hall => simp [conflictFindings, hasBothLists, hany, hall]
  | beside hinline hsome hone =>
      have hbeside : view.hasInlineBesideList := by simpa [hasInlineBesideList, hinline] using hsome
      simp [conflictFindings, hbeside]
  | any hany hall hinline =>
      simp [conflictFindings, hasBothLists, hasInlineBesideList, hall, hinline]
  | all hall hany hinline =>
      simp [conflictFindings, hasBothLists, hasInlineBesideList, hany, hinline]
  | inline hinline hany hall =>
      simp [conflictFindings, hasBothLists, hasInlineBesideList, hany, hall]
  | empty hany hall hinline =>
      simp [conflictFindings, hasBothLists, hasInlineBesideList, hany, hall]

theorem Evaluates.eq_anyAndAll_iff {result : Except Conflict Bool}
    {filters : List Hub.ResourceFilter} (h : view.Evaluates verdict state result filters) :
    result = .error .anyAndAll ↔ view.any ≠ [] ∧ view.all ≠ [] := by
  cases h with
  | both hany hall => simp [hany, hall]
  | beside hinline hsome hone => rcases hone with hany | hall <;> simp [*]
  | any hany hall hinline => simp [hall]
  | all hall hany hinline => simp [hany]
  | inline hinline hany hall => simp [hany]
  | empty hany hall hinline => simp [hany]

/-- A block comes to what is told of it, asks about no more than it needs, and meets a conflict
just where the validator tells one at the block, before all that it tells of its filters. -/
theorem evaluation_agrees_with_findings (view : MatchView) (context : MatchContext)
    (path : FieldPath) (verdict : Verdict σ) (state : σ) :
    view.Evaluates verdict state (view.run verdict state).1 (view.asked verdict state) ∧
    (view.run verdict state).2 = verdict.after state (view.asked verdict state) ∧
    ((∃ conflict, (view.run verdict state).1 = .error conflict) ↔
      ∃ finding ∈ view.findings context path, finding.TellsConflict path) ∧
    (∃ conflicts others, view.findings context path = conflicts ++ others ∧
      (∀ finding ∈ conflicts, finding.TellsConflict path) ∧
      ∀ finding ∈ others, ¬ finding.TellsConflict path) ∧
    ((view.run verdict state).1 = .error .anyAndAll ↔ view.any ≠ [] ∧ view.all ≠ []) := by
  obtain ⟨result, filters, h⟩ := view.exists_evaluates verdict state
  rw [h.run_eq, h.asked_eq]
  refine ⟨h, rfl, ?_, ⟨_, _, view.findings_eq context path, fun _ => tellsConflict_of_mem,
    fun _ => not_tellsConflict_of_mem⟩, h.eq_anyAndAll_iff⟩
  calc (∃ conflict, result = .error conflict)
      ↔ ¬ ∀ conflict, result ≠ .error conflict := not_forall_not.symm
    _ ↔ view.conflictFindings path ≠ [] := h.conflictFindings_eq_nil_iff.not.symm
    _ ↔ ∃ finding ∈ view.findings context path, finding.TellsConflict path :=
        exists_tellsConflict_iff.symm

end MatchView

end HubSpoke
