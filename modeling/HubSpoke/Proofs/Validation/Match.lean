import HubSpoke.Validation.Match

/-!
# Well-formed match blocks

What a selector, a subject, a filter and a block must be to have no finding.  None of it depends on
where in a document the part stands, so a part that is well formed in one place is so in another.
-/

namespace HubSpoke

namespace Finding

@[simp] theorem require_eq_nil_iff {met : Bool} {path : FieldPath} {defect : Defect} :
    require met path defect = [] ↔ met := by
  cases met <;> simp [require]

end Finding

/-- What is asked of the items of a list, wherever they stand in it. -/
theorem forall_mem_zipIdx_iff {α : Type} {items : List α} {valid : α → Prop} :
    (∀ item position, (item, position) ∈ items.zipIdx → valid item) ↔
      ∀ item ∈ items, valid item := by
  constructor
  · intro hvalid item hitem
    obtain ⟨position, hposition⟩ := List.mem_iff_getElem?.mp hitem
    exact hvalid item position (List.mk_mem_zipIdx_iff_getElem?.mpr hposition)
  · intro hvalid item position hitem
    exact hvalid item (List.fst_mem_of_mem_zipIdx hitem)

/-! ## Selectors -/

/-- The requirement names a label, and holds values just where its operator takes some. -/
structure LabelRequirement.WellFormed (r : LabelRequirement) : Prop where
  key : Text.isBlank r.key = false
  operator : r.operator ∈ Defect.selectorOperators
  values : r.values = [] ↔ r.operator = "Exists" ∨ r.operator = "DoesNotExist"

theorem LabelRequirement.findings_eq_nil_iff {path : FieldPath} {r : LabelRequirement} :
    r.findings path = [] ↔ r.WellFormed := by
  have hoperator : r.operator ∈ Defect.selectorOperators ↔
      (r.operator = "In" ∨ r.operator = "NotIn") ∨
        r.operator = "Exists" ∨ r.operator = "DoesNotExist" := by
    simp [Defect.selectorOperators, or_assoc]
  rw [findings, List.append_eq_nil_iff, Finding.require_eq_nil_iff, Bool.not_eq_true']
  split
  case isTrue htakes =>
    have hother : ¬ (r.operator = "Exists" ∨ r.operator = "DoesNotExist") := by
      rcases htakes with h | h <;> rw [h] <;> decide
    constructor
    · rintro ⟨hkey, hvalues⟩
      exact ⟨hkey, hoperator.mpr (.inl htakes), by simpa [hother] using hvalues⟩
    · rintro ⟨hkey, -, hvalues⟩
      exact ⟨hkey, by simpa [hother] using hvalues⟩
  case isFalse hnot =>
    split
    case isTrue hnone =>
      constructor
      · rintro ⟨hkey, hvalues⟩
        exact ⟨hkey, hoperator.mpr (.inr hnone), by simpa [hnone] using hvalues⟩
      · rintro ⟨hkey, -, hvalues⟩
        exact ⟨hkey, by simpa [hnone] using hvalues⟩
    case isFalse hneither =>
      -- an operator of neither kind is a finding of its own
      refine iff_of_false (by simp) fun h => ?_
      exact (hoperator.mp h.operator).elim hnot hneither

/-- The labels and the requirements of a selector are well formed. -/
structure LabelSelector.WellFormed (s : LabelSelector) : Prop where
  labels : ∀ key ∈ s.matchLabels.keys, Text.isBlank key = false
  requirements : ∀ r ∈ s.matchExpressions, r.WellFormed

theorem LabelSelector.findings_eq_nil_iff {path : FieldPath} {s : LabelSelector} :
    s.findings path = [] ↔ s.WellFormed := by
  simp only [findings, List.append_eq_nil_iff, Finding.require_eq_nil_iff, List.all_eq_true,
    Bool.not_eq_true', List.flatMap_eq_nil_iff, Prod.forall, LabelRequirement.findings_eq_nil_iff,
    forall_mem_zipIdx_iff]
  exact ⟨fun h => ⟨h.1, h.2⟩, fun h => ⟨h.labels, h.requirements⟩⟩

/-! ## Users -/

/-- The subject is of a known kind and has a name, and a service account has a namespace. -/
structure Subject.WellFormed (s : Subject) : Prop where
  kind : s.kind ∈ Defect.subjectKinds
  name : Text.isBlank s.name = false
  namespaceName : s.kind = "ServiceAccount" → Text.isBlank s.namespaceName = false

theorem Subject.findings_eq_nil_iff {path : FieldPath} {s : Subject} :
    s.findings path = [] ↔ s.WellFormed := by
  simp only [findings, List.append_eq_nil_iff, Finding.require_eq_nil_iff, Bool.not_eq_true',
    List.contains_iff_mem, decide_eq_true_eq, ne_eq, ← Decidable.imp_iff_not_or]
  exact ⟨fun h => ⟨h.1.1, h.1.2, h.2⟩, fun h => ⟨⟨h.kind, h.name⟩, h.namespaceName⟩⟩

/-- No user is asked for in background scans, and elsewhere the subjects are well formed. -/
def UserInfo.WellFormed (mode : MatchMode) (user : UserInfo) : Prop :=
  match mode with
  | .background => user.roles = [] ∧ user.clusterRoles = [] ∧ user.subjects = []
  | .admission => ∀ s ∈ user.subjects, s.WellFormed

theorem UserInfo.findings_eq_nil_iff {mode : MatchMode} {path : FieldPath} {user : UserInfo} :
    user.findings mode path = [] ↔ user.WellFormed mode := by
  cases mode with
  | background => simp [findings, WellFormed]
  | admission =>
      simp only [findings, WellFormed, List.flatMap_eq_nil_iff, Prod.forall,
        Subject.findings_eq_nil_iff, forall_mem_zipIdx_iff]

/-! ## Filters -/

theorem Text.splitAt_ne_nil (separator : Char) (cs : List Char) : splitAt separator cs ≠ [] := by
  cases cs with
  | nil => simp [splitAt]
  | cons c rest => grind [splitAt]

namespace KindSelector

theorem isWellFormed_iff {selector : String} :
    isWellFormed selector ↔
      (1 ≤ (Text.segments '/' selector).length ∧ (Text.segments '/' selector).length ≤ 4) ∧
        ∀ segment ∈ Text.segments '/' selector, Text.isBlank segment = false := by
  have hsome : 1 ≤ (Text.segments '/' selector).length := by
    rw [Text.segments, List.length_map]
    exact List.length_pos_iff.mpr (Text.splitAt_ne_nil '/' selector.toList)
  simp [isWellFormed, hsome]

/-- The selector has one to four segments that are not blank, and a policy in a namespace selects
no kind that is cluster-scoped. -/
structure WellFormed (context : MatchContext) (selector : String) : Prop where
  count : 1 ≤ (Text.segments '/' selector).length ∧ (Text.segments '/' selector).length ≤ 4
  segments : ∀ segment ∈ Text.segments '/' selector, Text.isBlank segment = false
  scope : context.namespaced → context.scope.isClusterScoped (kind selector) = false

theorem findings_eq_nil_iff {context : MatchContext} {path : FieldPath} {selector : String} :
    findings context path selector = [] ↔ WellFormed context selector := by
  rw [findings]
  split
  case isTrue hmalformed =>
    refine iff_of_false (by simp) fun h => ?_
    simp [isWellFormed_iff.mpr ⟨h.count, h.segments⟩] at hmalformed
  case isFalse hformed =>
    obtain ⟨hcount, hsegments⟩ := isWellFormed_iff.mp (by simpa using hformed)
    simp only [Finding.require_eq_nil_iff, Bool.not_eq_true', Bool.and_eq_false_imp]
    exact ⟨fun h => ⟨hcount, hsegments, h⟩, fun h => h.scope⟩

end KindSelector

namespace Hub

/-- The parts of a description are well formed, the single name stands alone, and the namespaces of
a policy in a namespace are its own. -/
structure ResourceDescription.WellFormed (context : MatchContext) (d : ResourceDescription) :
    Prop where
  name : d.name = "" ∨ d.names = []
  kinds : ∀ selector ∈ d.kinds, KindSelector.WellFormed context selector
  namespaces : context.namespaced → ∀ own ∈ context.namespaceName, ∀ name ∈ d.namespaces,
    name = own
  annotations : ∀ key ∈ d.annotations.keys, Text.isBlank key = false
  selector : ∀ s ∈ d.selector, s.WellFormed
  namespaceSelector : ∀ s ∈ d.namespaceSelector, s.WellFormed

theorem ResourceDescription.namespaceFindings_eq_nil_iff {context : MatchContext}
    {path : FieldPath} {d : ResourceDescription} :
    d.namespaceFindings context path = [] ↔
      (context.namespaced → ∀ own ∈ context.namespaceName, ∀ name ∈ d.namespaces,
        name = own) := by
  rw [namespaceFindings]
  split
  case h_1 own hnamespaced hown =>
    simp only [List.flatMap_eq_nil_iff, Prod.forall, Finding.require_eq_nil_iff,
      decide_eq_true_eq, forall_mem_zipIdx_iff]
    simp [hnamespaced, hown]
  case h_2 hother =>
    refine iff_of_true rfl fun hnamespaced own hown => ?_
    exact absurd (Option.mem_def.mp hown) (hother own hnamespaced)

theorem ResourceDescription.findings_eq_nil_iff {context : MatchContext} {path : FieldPath}
    {d : ResourceDescription} : d.findings context path = [] ↔ d.WellFormed context := by
  simp only [findings, List.append_eq_nil_iff, Finding.require_eq_nil_iff, Bool.or_eq_true,
    String.isEmpty_iff, List.isEmpty_iff, List.all_eq_true, Bool.not_eq_true',
    List.flatMap_eq_nil_iff, Prod.forall, forall_mem_zipIdx_iff, Option.mem_toList,
    KindSelector.findings_eq_nil_iff, namespaceFindings_eq_nil_iff,
    LabelSelector.findings_eq_nil_iff]
  constructor
  · rintro ⟨⟨⟨⟨⟨hname, hkinds⟩, hnamespaces⟩, hannotations⟩, hselector⟩, hother⟩
    exact ⟨hname, hkinds, hnamespaces, hannotations, hselector, hother⟩
  · rintro ⟨hname, hkinds, hnamespaces, hannotations, hselector, hother⟩
    exact ⟨⟨⟨⟨⟨hname, hkinds⟩, hnamespaces⟩, hannotations⟩, hselector⟩, hother⟩

/-- A filter constrains something, and its parts are well formed. -/
structure ResourceFilter.WellFormed (context : MatchContext) (filter : ResourceFilter) : Prop where
  constrains : filter.isEmpty = false
  user : filter.user.WellFormed context.mode
  resources : filter.resources.WellFormed context

theorem ResourceFilter.findings_eq_nil_iff {context : MatchContext} {path : FieldPath}
    {filter : ResourceFilter} : filter.findings context path = [] ↔ filter.WellFormed context := by
  rw [findings]
  split
  case isTrue hempty =>
    refine iff_of_false (by simp) fun h => ?_
    simp [h.constrains] at hempty
  case isFalse hconstrains =>
    rw [List.append_eq_nil_iff, UserInfo.findings_eq_nil_iff,
      ResourceDescription.findings_eq_nil_iff]
    exact ⟨fun h => ⟨by simpa using hconstrains, h.1, h.2⟩, fun h => ⟨h.user, h.resources⟩⟩

end Hub

/-! ## Blocks -/

/-- A block selects in one way only, and its filters are well formed. -/
structure MatchView.WellFormed (context : MatchContext) (view : MatchView) : Prop where
  lists : view.any = [] ∨ view.all = []
  inline : view.inline.isSome → view.any = [] ∧ view.all = []
  any : ∀ filter ∈ view.any, filter.WellFormed context
  all : ∀ filter ∈ view.all, filter.WellFormed context
  single : ∀ filter ∈ view.inline, filter.WellFormed context

theorem MatchView.findings_eq_nil_iff {context : MatchContext} {path : FieldPath}
    {view : MatchView} : view.findings context path = [] ↔ view.WellFormed context := by
  have hlists : view.hasBothLists = false ↔ view.any = [] ∨ view.all = [] := by
    simp [hasBothLists, Decidable.or_iff_not_imp_left]
  have hinline : view.hasInlineBesideList = false ↔
      (view.inline.isSome → view.any = [] ∧ view.all = []) := by
    simp [hasInlineBesideList]
  simp only [findings, List.append_eq_nil_iff, Finding.require_eq_nil_iff, Bool.not_eq_true',
    hlists, hinline, List.flatMap_eq_nil_iff, Prod.forall, forall_mem_zipIdx_iff,
    Option.mem_toList, Hub.ResourceFilter.findings_eq_nil_iff]
  constructor
  · rintro ⟨⟨⟨⟨hlists, hinline⟩, hany⟩, hall⟩, hsingle⟩
    exact ⟨hlists, hinline, hany, hall, hsingle⟩
  · rintro ⟨hlists, hinline, hany, hall, hsingle⟩
    exact ⟨⟨⟨⟨hlists, hinline⟩, hany⟩, hall⟩, hsingle⟩

end HubSpoke
