import HubSpoke.Proofs.Validation.Spoke

/-!
# How blocks are evaluated

A block is evaluated by asking for verdicts on its filters.  The verdict function may keep a state,
so that what it answers can depend on the questions before, and it matters how many there are and in
which order.  `Verdict.recorded` is a verdict function that writes down what it is asked.

`MatchView.Evaluates` tells what a block comes to without the steps of the evaluator: a conflict
asks nothing, and else one list, or the inline filter, is asked about up to the answer that decides.
The evaluator does just that (`MatchView.Evaluates.run_eq`, `MatchView.Evaluates.asked_eq`).

Folding moves the inline filter into a list and each single name among the names of its filter.  Of
the cases of `MatchView.Evaluates` each but one has a case that a folded block falls into, with the
same filters folded; a block with an inline filter beside a list is the exception.
-/

namespace HubSpoke

/-! ## Asking for verdicts -/

/-- A verdict on filters, with a state that each question may change. -/
abbrev Verdict (σ : Type) := Hub.ResourceFilter → StateM σ Bool

namespace Verdict

variable {σ : Type} (verdict : Verdict σ)

/-- The answer on a filter. -/
def answer (state : σ) (filter : Hub.ResourceFilter) : Bool :=
  ((verdict filter).run state).1

/-- The state that the question about a filter leaves. -/
def next (state : σ) (filter : Hub.ResourceFilter) : σ :=
  ((verdict filter).run state).2

/-- The answers on filters asked about one after the other. -/
def answers : σ → List Hub.ResourceFilter → List Bool
  | _, [] => []
  | state, filter :: rest =>
      verdict.answer state filter :: answers (verdict.next state filter) rest

/-- The state that questions about filters leave, one after the other. -/
def after (state : σ) (filters : List Hub.ResourceFilter) : σ :=
  filters.foldl verdict.next state

/-- The filters up to the first that gets the deciding answer, that one included; all of them where
none does. -/
def upTo (deciding : Bool) (state : σ) (filters : List Hub.ResourceFilter) :
    List Hub.ResourceFilter :=
  filters.take ((verdict.answers state filters).idxOf deciding + 1)

/-- The verdict function that also writes down what it is asked about. -/
def recorded : Verdict (σ × List Hub.ResourceFilter) := fun filter => do
  let (state, asked) ← get
  set (verdict.next state filter, asked ++ [filter])
  return verdict.answer state filter

variable {verdict} {state : σ} {filter : Hub.ResourceFilter}
  {filters asked : List Hub.ResourceFilter}

theorem run_bind {α : Type} {go : Bool → StateM σ α} :
    (verdict filter >>= go).run state =
      (go (verdict.answer state filter)).run (verdict.next state filter) := rfl

theorem upTo_cons {deciding : Bool} :
    verdict.upTo deciding state (filter :: filters) =
      filter :: if verdict.answer state filter = deciding then []
        else verdict.upTo deciding (verdict.next state filter) filters := by
  by_cases hanswer : verdict.answer state filter = deciding <;> simp [upTo, answers, hanswer]

theorem after_cons :
    verdict.after state (filter :: filters) = verdict.after (verdict.next state filter) filters :=
  rfl

/-- One accepted filter is enough, and the first one decides. -/
theorem run_anyM :
    (filters.anyM verdict).run state =
      ((verdict.answers state filters).any id,
        verdict.after state (verdict.upTo true state filters)) := by
  induction filters generalizing state with
  | nil => rfl
  | cons filter rest ih =>
      rw [List.anyM_cons, run_bind, upTo_cons, after_cons, answers]
      cases verdict.answer state filter with
      | true => rfl
      | false => simpa using ih

/-- One rejected filter is enough, and the first one decides. -/
theorem run_allM :
    (filters.allM verdict).run state =
      ((verdict.answers state filters).all id,
        verdict.after state (verdict.upTo false state filters)) := by
  induction filters generalizing state with
  | nil => rfl
  | cons filter rest ih =>
      rw [List.allM_cons, run_bind, upTo_cons, after_cons, answers]
      cases verdict.answer state filter with
      | true => simpa using ih
      | false => rfl

/-! ### Writing down what is asked -/

@[simp] theorem answer_recorded :
    verdict.recorded.answer (state, asked) filter = verdict.answer state filter := rfl

@[simp] theorem next_recorded :
    verdict.recorded.next (state, asked) filter =
      (verdict.next state filter, asked ++ [filter]) := rfl

@[simp] theorem answers_recorded :
    verdict.recorded.answers (state, asked) filters = verdict.answers state filters := by
  induction filters generalizing state asked with
  | nil => rfl
  | cons filter rest ih => simp [answers, ih]

@[simp] theorem upTo_recorded {deciding : Bool} :
    verdict.recorded.upTo deciding (state, asked) filters =
      verdict.upTo deciding state filters := by
  simp [upTo]

@[simp] theorem after_recorded :
    verdict.recorded.after (state, asked) filters =
      (verdict.after state filters, asked ++ filters) := by
  induction filters generalizing state asked with
  | nil => simp [after]
  | cons filter rest ih => simp [after_cons, ih]

end Verdict

/-! ## Evaluating a block -/

namespace MatchView

variable {σ : Type}

/-- What a block comes to, and the state that its evaluation leaves. -/
def run (verdict : Verdict σ) (state : σ) (view : MatchView) : Except Conflict Bool × σ :=
  (view.evaluate verdict).run state

/-- The filters that evaluation asks about, in order. -/
def asked (verdict : Verdict σ) (state : σ) (view : MatchView) : List Hub.ResourceFilter :=
  (view.run verdict.recorded (state, [])).2.2

/-- What a block comes to, and the filters that are asked about for it. -/
inductive Evaluates (verdict : Verdict σ) (state : σ) (view : MatchView) :
    Except Conflict Bool → List Hub.ResourceFilter → Prop where
  | both (hany : view.any ≠ []) (hall : view.all ≠ []) :
      Evaluates verdict state view (.error .anyAndAll) []
  | beside (hinline : view.inline.isSome) (hsome : view.any ≠ [] ∨ view.all ≠ [])
      (hone : view.any = [] ∨ view.all = []) :
      Evaluates verdict state view (.error .inlineWithLists) []
  | any (hany : view.any ≠ []) (hall : view.all = []) (hinline : view.inline = none) :
      Evaluates verdict state view (.ok ((verdict.answers state view.any).any id))
        (verdict.upTo true state view.any)
  | all (hall : view.all ≠ []) (hany : view.any = []) (hinline : view.inline = none) :
      Evaluates verdict state view (.ok ((verdict.answers state view.all).all id))
        (verdict.upTo false state view.all)
  | inline {filter : Hub.ResourceFilter} (hinline : view.inline = some filter)
      (hany : view.any = []) (hall : view.all = []) :
      Evaluates verdict state view (.ok (verdict.answer state filter)) [filter]
  | empty (hany : view.any = []) (hall : view.all = []) (hinline : view.inline = none) :
      Evaluates verdict state view (.ok false) []

variable {verdict : Verdict σ} {state : σ} {view : MatchView} {result : Except Conflict Bool}
  {filters : List Hub.ResourceFilter}

/-- Every block comes to something. -/
theorem exists_evaluates (verdict : Verdict σ) (state : σ) (view : MatchView) :
    ∃ result filters, view.Evaluates verdict state result filters := by
  by_cases hany : view.any = []
  · by_cases hall : view.all = []
    · cases hinline : view.inline with
      | none => exact ⟨_, _, .empty hany hall hinline⟩
      | some filter => exact ⟨_, _, .inline hinline hany hall⟩
    · cases hinline : view.inline with
      | none => exact ⟨_, _, .all hall hany hinline⟩
      | some filter => exact ⟨_, _, .beside (by simp [hinline]) (.inr hall) (.inl hany)⟩
  · by_cases hall : view.all = []
    · cases hinline : view.inline with
      | none => exact ⟨_, _, .any hany hall hinline⟩
      | some filter => exact ⟨_, _, .beside (by simp [hinline]) (.inl hany) (.inr hall)⟩
    · exact ⟨_, _, .both hany hall⟩

namespace Evaluates

/-- The evaluator does what is told of the block. -/
theorem run_eq (h : view.Evaluates verdict state result filters) :
    view.run verdict state = (result, verdict.after state filters) := by
  cases h with
  | both hany hall =>
      have hevaluate : view.evaluate verdict = pure (.error .anyAndAll) := by
        simp [evaluate, hasBothLists, hany, hall]
      rw [run, hevaluate]
      rfl
  | beside hinline hsome hone =>
      have hboth : view.hasBothLists = false := by
        rcases hone with hany | hall <;> simp [hasBothLists, *]
      have hbeside : view.hasInlineBesideList := by simpa [hasInlineBesideList, hinline] using hsome
      have hevaluate : view.evaluate verdict = pure (.error .inlineWithLists) := by
        simp [evaluate, hboth, hbeside]
      rw [run, hevaluate]
      rfl
  | any hany hall hinline =>
      have hevaluate : view.evaluate verdict = .ok <$> view.any.anyM verdict := by
        simp [evaluate, hasBothLists, hasInlineBesideList, hany, hall, hinline]
      rw [run, hevaluate, StateT.run_map, Verdict.run_anyM]
      rfl
  | all hall hany hinline =>
      have hevaluate : view.evaluate verdict = .ok <$> view.all.allM verdict := by
        simp [evaluate, hasBothLists, hasInlineBesideList, hany, hall, hinline]
      rw [run, hevaluate, StateT.run_map, Verdict.run_allM]
      rfl
  | @inline filter hinline hany hall =>
      have hevaluate : view.evaluate verdict = .ok <$> verdict filter := by
        simp [evaluate, hasBothLists, hasInlineBesideList, hany, hall, hinline]
      rw [run, hevaluate]
      rfl
  | empty hany hall hinline =>
      have hevaluate : view.evaluate verdict = pure (.ok false) := by
        simp [evaluate, hasBothLists, hasInlineBesideList, hany, hall, hinline]
      rw [run, hevaluate]
      rfl

/-- Writing down what is asked changes nothing else. -/
theorem recorded (h : view.Evaluates verdict state result filters)
    (asked : List Hub.ResourceFilter) :
    view.Evaluates verdict.recorded (state, asked) result filters := by
  cases h with
  | both hany hall => exact .both hany hall
  | beside hinline hsome hone => exact .beside hinline hsome hone
  | any hany hall hinline =>
      have h : view.Evaluates verdict.recorded (state, asked) _ _ := .any hany hall hinline
      simpa using h
  | all hall hany hinline =>
      have h : view.Evaluates verdict.recorded (state, asked) _ _ := .all hall hany hinline
      simpa using h
  | inline hinline hany hall => exact .inline hinline hany hall
  | empty hany hall hinline => exact .empty hany hall hinline

theorem asked_eq (h : view.Evaluates verdict state result filters) :
    view.asked verdict state = filters := by
  rw [asked, (h.recorded []).run_eq]
  simp

end Evaluates

end MatchView

/-! ## Folding keeps evaluation -/

namespace Hub

/-- The filter with its single name at the end of its names. -/
def ResourceFilter.folded (filter : ResourceFilter) : ResourceFilter :=
  { filter with resources := { filter.resources with
      name := ""
      names := filter.resources.names ++
        if filter.resources.name = "" then [] else [filter.resources.name] } }

@[simp] theorem MatchBlock.any_view (block : MatchBlock) : block.view.any = block.any := rfl

@[simp] theorem MatchBlock.all_view (block : MatchBlock) : block.view.all = block.all := rfl

end Hub

namespace Verdict

variable {σ : Type} {verdict : Verdict σ} {state : σ} {filters : List Hub.ResourceFilter}

/-- The verdict on a filter once its single name is folded. -/
def onFolded (verdict : Verdict σ) : Verdict σ := fun filter => verdict filter.folded

@[simp] theorem answer_onFolded {filter : Hub.ResourceFilter} :
    verdict.onFolded.answer state filter = verdict.answer state filter.folded := rfl

theorem answers_map_folded :
    verdict.answers state (filters.map Hub.ResourceFilter.folded) =
      verdict.onFolded.answers state filters := by
  induction filters generalizing state with
  | nil => rfl
  | cons filter rest ih => exact congrArg _ ih

theorem upTo_map_folded {deciding : Bool} :
    verdict.upTo deciding state (filters.map Hub.ResourceFilter.folded) =
      (verdict.onFolded.upTo deciding state filters).map Hub.ResourceFilter.folded := by
  rw [upTo, answers_map_folded, ← List.map_take, upTo]

theorem after_map_folded :
    verdict.after state (filters.map Hub.ResourceFilter.folded) =
      verdict.onFolded.after state filters := List.foldl_map

end Verdict

namespace MatchView

variable {σ : Type} {verdict : Verdict σ} {state : σ} {block : Hub.MatchBlock}
  {result : Except Conflict Bool} {filters : List Hub.ResourceFilter}

theorem view_toSpoke (block : Hub.MatchBlock) : block.toSpoke.view = {
      any := (block.any ++ if block.hasInline ∧ block.all = [] then [block.inline] else []).map
        Hub.ResourceFilter.folded
      all := (block.all ++ if block.hasInline ∧ block.all ≠ [] then [block.inline] else []).map
        Hub.ResourceFilter.folded
      inline := none } := by
  rw [← Spoke.MatchBlock.view_toHub]
  exact block.view_toHub_toSpoke

theorem hasInline_of_view {inline : Option Hub.ResourceFilter} (h : block.view.inline = inline) :
    block.hasInline = inline.isSome ∧ ∀ filter ∈ inline, filter = block.inline := by
  subst h
  by_cases hinline : block.hasInline <;> simp [Hub.MatchBlock.view, hinline, Hub.MatchBlock.inline]

/-- A block that has no inline filter beside a list is evaluated alike once it is folded. -/
theorem Evaluates.folded (h : block.view.Evaluates verdict.onFolded state result filters)
    (hbeside : result ≠ .error .inlineWithLists) :
    block.toSpoke.view.Evaluates verdict state result (filters.map Hub.ResourceFilter.folded) := by
  cases h with
  | both hany hall =>
      rw [Hub.MatchBlock.any_view] at hany
      rw [Hub.MatchBlock.all_view] at hall
      rw [view_toSpoke]
      exact .both (by simp [hany]) (by simp [hall])
  | beside hinline hsome hone => exact absurd rfl hbeside
  | any hany hall hinline =>
      rw [Hub.MatchBlock.all_view] at hall
      have hview : block.toSpoke.view = ⟨block.any.map Hub.ResourceFilter.folded, [], none⟩ := by
        simp [view_toSpoke, hall, (hasInline_of_view hinline).1]
      rw [hview, ← Verdict.upTo_map_folded, ← Verdict.answers_map_folded]
      exact .any (by simpa using hany) rfl rfl
  | all hall hany hinline =>
      rw [Hub.MatchBlock.any_view] at hany
      have hview : block.toSpoke.view = ⟨[], block.all.map Hub.ResourceFilter.folded, none⟩ := by
        simp [view_toSpoke, hany, (hasInline_of_view hinline).1]
      rw [hview, ← Verdict.upTo_map_folded, ← Verdict.answers_map_folded]
      exact .all (by simpa using hall) rfl rfl
  | @inline filter hinline hany hall =>
      rw [Hub.MatchBlock.any_view] at hany
      rw [Hub.MatchBlock.all_view] at hall
      obtain ⟨hinline, hfilter⟩ := hasInline_of_view hinline
      obtain rfl := hfilter filter rfl
      -- the inline filter has become the only one of its list, so its answer decides either way
      have hview : block.toSpoke.view = ⟨[block.inline.folded], [], none⟩ := by
        simp [view_toSpoke, hany, hall, hinline]
      have hlist : block.toSpoke.view.Evaluates verdict state _ _ :=
        .any (by simp [hview]) (by simp [hview]) (by simp [hview])
      simpa [hview, Verdict.answers, Verdict.upTo] using hlist
  | empty hany hall hinline =>
      rw [Hub.MatchBlock.any_view] at hany
      rw [Hub.MatchBlock.all_view] at hall
      have hview : block.toSpoke.view = ⟨[], [], none⟩ := by
        simp [view_toSpoke, hany, hall, (hasInline_of_view hinline).1]
      rw [hview]
      exact .empty rfl rfl rfl

end MatchView

/-- Folded, a block comes to what it came to before, through the same questions in the same order,
and has no finding where it had none.  A block whose inline filter stands beside a list comes to
nothing, but may well come to something once it is folded. -/
theorem folding_keeps_selection {σ : Type} {verdict : Verdict σ} {state : σ}
    {block : Hub.MatchBlock}
    (hbeside : (block.view.run verdict.onFolded state).1 ≠ .error .inlineWithLists) :
    block.toSpoke.view.run verdict state = block.view.run verdict.onFolded state ∧
    block.toSpoke.view.asked verdict state =
      (block.view.asked verdict.onFolded state).map Hub.ResourceFilter.folded ∧
    ∀ context path, block.view.findings context path = [] →
      block.toSpoke.view.findings context path = [] := by
  obtain ⟨result, filters, h⟩ := block.view.exists_evaluates verdict.onFolded state
  rw [h.run_eq] at hbeside
  have hfolded := h.folded hbeside
  refine ⟨?_, ?_, fun context path hvalid => ?_⟩
  · rw [hfolded.run_eq, h.run_eq, Verdict.after_map_folded]
  · rw [hfolded.asked_eq, h.asked_eq]
  · have hblock := MatchView.findings_eq_nil_iff.mp hvalid
    rw [← Spoke.MatchBlock.view_toHub]
    exact MatchView.findings_eq_nil_iff.mpr (Hub.MatchBlock.wellFormed_folded hblock)

/-- The verdict that accepts a filter for one name and counts the questions. -/
def Verdict.accepting (name : String) : Verdict Nat := fun filter => do
  modify (· + 1)
  return filter.resources.names.contains name

theorem folding_keeps_selection_inline :
    let block : Hub.MatchBlock := { resources := { kinds := ["Pod"], name := "web" } }
    block.toSpoke.view.run (.accepting "web") 0 = (.ok true, 1) ∧
    block.toSpoke.view.asked (.accepting "web") 0 = [block.inline.folded] ∧
    block.toSpoke.view.findings ⟨.background, true, some "team", .builtin⟩ .rules = [] := by
  intro block
  have hbeside : (block.view.run (Verdict.accepting "web").onFolded 0).1 ≠
      .error .inlineWithLists := by decide +kernel
  obtain ⟨hrun, hasked, hfindings⟩ := folding_keeps_selection hbeside
  refine ⟨hrun.trans ?_, hasked.trans ?_, hfindings _ _ ?_⟩
  · decide +kernel
  · decide +kernel
  · decide +kernel

end HubSpoke
