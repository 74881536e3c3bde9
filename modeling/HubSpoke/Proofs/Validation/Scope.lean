import HubSpoke.Proofs.Validation.Valid

/-!
# Which kinds a valid policy selects

A policy in a namespace may select no cluster-scoped kind.  The validator looks up the kind that a
selector seems to name: it takes the first segment that begins with a capital letter or a wildcard,
and the whole selector where there is none.

`KindSelector.Names` says of a selector what its segments stand for, without guessing.  The guess is
wrong exactly where `KindSelector.Misread` says so: at a group or a version that begins with a
wildcard, and at a kind that begins with neither and does not stand alone.  Then something else is
looked up than what is selected, so the ban holds up to these selectors.
-/

namespace HubSpoke

/-! ## Segments -/

namespace Text

variable {separator : Char} {piece rest : List Char}

theorem splitAt_of_not_mem (h : separator ∉ piece) : splitAt separator piece = [piece] := by
  induction piece with
  | nil => rfl
  | cons c piece ih =>
      obtain ⟨hc, hpiece⟩ := not_or.mp (List.mem_cons.not.mp h)
      rw [splitAt, if_neg (Ne.symm hc), ih hpiece]

theorem segments_of_not_mem {text : String} (h : separator ∉ text.toList) :
    segments separator text = [text] := by
  simp [segments, splitAt_of_not_mem h]

theorem splitAt_append (h : separator ∉ piece) :
    splitAt separator (piece ++ separator :: rest) = piece :: splitAt separator rest := by
  induction piece with
  | nil => simp [splitAt]
  | cons c piece ih =>
      obtain ⟨hc, hpiece⟩ := not_or.mp (List.mem_cons.not.mp h)
      rw [List.cons_append, splitAt, if_neg (Ne.symm hc), ih hpiece]

theorem splitAt_intercalate {first : List Char} {more : List (List Char)}
    (h : ∀ piece ∈ first :: more, separator ∉ piece) :
    splitAt separator ([separator].intercalate (first :: more)) = first :: more := by
  induction more generalizing first with
  | nil => simpa using splitAt_of_not_mem (h first (by simp))
  | cons second more ih =>
      rw [List.intercalate_cons_cons, List.append_assoc, List.singleton_append,
        splitAt_append (h first (by simp)), ih fun piece hpiece => h piece (by simp [hpiece])]

/-- The segments of a text are the pieces it was put together from. -/
theorem segments_intercalate {pieces : List String} (hne : pieces ≠ [])
    (h : ∀ piece ∈ pieces, separator ∉ piece.toList) :
    segments separator ((String.singleton separator).intercalate pieces) = pieces := by
  obtain ⟨first, more, rfl⟩ := List.exists_cons_of_ne_nil hne
  have hpieces : ∀ piece ∈ (first :: more).map String.toList, separator ∉ piece := by
    simpa using h
  have hsplit : splitAt separator ([separator].intercalate ((first :: more).map String.toList)) =
      (first :: more).map String.toList := splitAt_intercalate hpieces
  rw [segments, String.toList_intercalate, String.toList_singleton, hsplit, List.map_map]
  simp [Function.comp_def]

end Text

/-! ## The kind a selector names -/

namespace KindSelector

/-- The segment begins with a capital letter. -/
def isCapitalized (segment : String) : Bool :=
  segment.toList.head?.any fun first => 'A' ≤ first ∧ first ≤ 'Z'

/-- The segment begins with a wildcard. -/
def isWildcard (segment : String) : Bool :=
  segment.toList.head? = some '*'

/-- The selector names a kind: before it stand versions and groups, which do not begin with a
capital letter, and after it subresources. -/
structure Names (selector : String) (before : List String) (kind : String) (after : List String) :
    Prop where
  selector_eq : selector = "/".intercalate (before ++ kind :: after)
  segments : ∀ segment ∈ before ++ kind :: after, '/' ∉ segment.toList
  before : ∀ segment ∈ before, isCapitalized segment = false

/-- The selectors whose kind is not found. -/
inductive Misread (before : List String) (kind : String) (after : List String) : Prop where
  | wildcard {segment : String} (hbefore : segment ∈ before) (hwildcard : isWildcard segment)
  | uncapitalized (hkind : isKindSegment kind = false) (hbeside : before ≠ [] ∨ after ≠ [])

theorem isKindSegment_eq (segment : String) :
    isKindSegment segment = (isCapitalized segment || isWildcard segment) := by
  rw [isKindSegment, isCapitalized, isWildcard]
  cases segment.toList <;> simp

namespace Names

variable {selector kind : String} {before after : List String}

theorem segments_eq (h : Names selector before kind after) :
    Text.segments '/' selector = before ++ kind :: after := by
  rw [h.selector_eq]
  exact Text.segments_intercalate (by simp) h.segments

/-- No segment before the kind is taken for it where none begins with a wildcard. -/
theorem find_before (h : Names selector before kind after)
    (hwildcard : ∀ segment ∈ before, isWildcard segment = false) :
    before.find? isKindSegment = none := by
  rw [List.find?_eq_none]
  intro segment hsegment
  simp [isKindSegment_eq, h.before segment hsegment, hwildcard segment hsegment]

/-- The kind is found in every selector that is not misread. -/
theorem kind_eq (h : Names selector before kind after) (hread : ¬ Misread before kind after) :
    KindSelector.kind selector = kind := by
  have hwildcard : ∀ segment ∈ before, isWildcard segment = false := by
    intro segment hsegment
    by_contra hwildcard
    exact hread (.wildcard hsegment (by simpa using hwildcard))
  rw [KindSelector.kind, h.segments_eq, List.find?_append, h.find_before hwildcard,
    Option.none_or, List.find?_cons]
  cases hkind : isKindSegment kind with
  | true => rfl
  | false =>
      -- a kind that does not look like one is found where it is the whole selector
      obtain ⟨rfl, rfl⟩ : before = [] ∧ after = [] := by
        by_contra hbeside
        exact hread (.uncapitalized hkind (not_and_or.mp hbeside))
      rw [h.selector_eq]
      simp

/-- Of a misread selector something else is taken for the kind. -/
theorem kind_ne (h : Names selector before kind after) (hkind : isWildcard kind = false)
    (hmisread : Misread before kind after) : KindSelector.kind selector ≠ kind := by
  rw [KindSelector.kind, h.segments_eq]
  cases hmisread with
  | wildcard hbefore hwildcard =>
      obtain ⟨found, hfound⟩ : ∃ found, before.find? isKindSegment = some found := by
        rw [← Option.isSome_iff_exists, List.find?_isSome]
        exact ⟨_, hbefore, by simp [isKindSegment_eq, hwildcard]⟩
      have hnot := h.before found (List.mem_of_find?_eq_some hfound)
      have hsegment := List.find?_some hfound
      rw [List.find?_append, hfound, Option.some_or, Option.getD_some]
      rintro rfl
      simp [isKindSegment_eq, hnot, hkind] at hsegment
  | uncapitalized hsegment hbeside =>
      cases hfound : (before ++ kind :: after).find? isKindSegment with
      | some found =>
          have hnamed := List.find?_some hfound
          rw [Option.getD_some]
          rintro rfl
          simp [hsegment] at hnamed
      | none =>
          rw [Option.getD_none]
          rintro rfl
          -- the selector has more segments than the kind alone
          have hsegments := h.segments_eq
          rw [Text.segments_of_not_mem (h.segments selector (by simp))] at hsegments
          obtain ⟨hbefore, hafter⟩ : before = [] ∧ after = [] := by
            simpa [List.singleton_eq_append_iff] using hsegments
          exact hbeside.elim (absurd hbefore) (absurd hafter)

theorem kind_ne_iff (h : Names selector before kind after) (hkind : isWildcard kind = false) :
    KindSelector.kind selector ≠ kind ↔ Misread before kind after :=
  ⟨fun hne => by_contra fun hread => hne (h.kind_eq hread), h.kind_ne hkind⟩

end Names

end KindSelector

/-! ## The selectors of a policy -/

namespace Hub

/-- The kind selectors of all filters of a block, the inline one included. -/
def MatchBlock.kinds (block : MatchBlock) : List String :=
  (block.any ++ block.all ++ [block.inline]).flatMap fun filter => filter.resources.kinds

/-- The kind selectors of a policy, in match and in exclude blocks. -/
def Policy.kindSelectors (policy : Policy) : List String :=
  policy.spec.rules.flatMap fun rule =>
    rule.matchBlock.kinds ++ rule.exclude.toList.flatMap MatchBlock.kinds

variable {context : MatchContext} {selector : String}

theorem MatchBlock.wellFormed_of_mem_kinds {block : MatchBlock} (h : block.view.WellFormed context)
    (hselector : selector ∈ block.kinds) : KindSelector.WellFormed context selector := by
  obtain ⟨filter, hfilter, hkinds⟩ := List.mem_flatMap.mp hselector
  rcases List.mem_append.mp hfilter with hlists | hinline
  · rcases List.mem_append.mp hlists with hany | hall
    · exact (h.any filter hany).resources.kinds selector hkinds
    · exact (h.all filter hall).resources.kinds selector hkinds
  · obtain rfl := List.mem_singleton.mp hinline
    -- a filter with a kind selector is not empty, so the block has an inline filter
    have hsome : block.hasInline := by
      by_contra hnone
      obtain ⟨-, hempty⟩ : block.user.isEmpty = true ∧ block.resources = {} := by
        simpa [hasInline, ResourceDescription.isEmpty] using hnone
      rw [inline, hempty] at hkinds
      exact List.not_mem_nil hkinds
    have hview : block.inline ∈ block.view.inline := by simp [view, hsome, inline]
    exact (h.single _ hview).resources.kinds selector hkinds

theorem Policy.wellFormed_of_mem_kindSelectors {policy : Policy}
    (h : ∀ rule ∈ policy.spec.rules, rule.WellFormed context)
    (hselector : selector ∈ policy.kindSelectors) : KindSelector.WellFormed context selector := by
  obtain ⟨rule, hrule, hselector⟩ := List.mem_flatMap.mp hselector
  rcases List.mem_append.mp hselector with hmatch | hexclude
  · exact MatchBlock.wellFormed_of_mem_kinds (h rule hrule).matchBlock hmatch
  · obtain ⟨block, hblock, hselector⟩ := List.mem_flatMap.mp hexclude
    exact MatchBlock.wellFormed_of_mem_kinds
      ((h rule hrule).exclude block (Option.mem_toList.mp hblock)) hselector

end Hub

namespace Spoke

/-- The kind selectors of a policy, in match and in exclude blocks. -/
def Policy.kindSelectors (policy : Policy) : List String :=
  policy.spec.rules.flatMap fun rule =>
    rule.matchBlock.kinds ++ rule.exclude.toList.flatMap MatchBlock.kinds

theorem MatchBlock.kinds_toHub (block : MatchBlock) : block.toHub.kinds = block.kinds := by
  simp [Hub.MatchBlock.kinds, kinds, toHub, Hub.MatchBlock.inline, List.flatMap_map,
    ResourceFilter.toHub, ResourceDescription.toHub]

theorem Policy.kindSelectors_toHub (policy : Policy) :
    policy.toHub.kindSelectors = policy.kindSelectors := by
  have hrule (rule : Rule) : rule.toHub.matchBlock.kinds ++
      rule.toHub.exclude.toList.flatMap Hub.MatchBlock.kinds =
        rule.matchBlock.kinds ++ rule.exclude.toList.flatMap MatchBlock.kinds := by
    cases hexclude : rule.exclude <;> simp [Rule.toHub, hexclude, MatchBlock.kinds_toHub]
  have hrules : policy.toHub.spec.rules = policy.spec.rules.map Rule.toHub := rfl
  simp only [Hub.Policy.kindSelectors, kindSelectors, hrules, List.flatMap_map, hrule]

end Spoke

namespace AnyPolicy

/-- The kind selectors of a policy, in match and in exclude blocks. -/
def kindSelectors : AnyPolicy → List String
  | .hub policy => policy.kindSelectors
  | .spoke policy => policy.kindSelectors

variable {policy : AnyPolicy} {scope : ResourceScope} {selector : String}

/-- A valid policy in a namespace looks up the kind of every selector in vain. -/
theorem isClusterScoped_of_mem (hkind : policy.kind = .policy)
    (hvalid : policy.findings scope = []) (hselector : selector ∈ policy.kindSelectors) :
    scope.isClusterScoped (KindSelector.kind selector) = false := by
  cases policy with
  | hub policy =>
      have hnamespaced : policy.kind.isNamespaced := congrArg PolicyKind.isNamespaced hkind
      have h := Hub.Policy.findings_eq_nil_iff.mp hvalid
      exact (Hub.Policy.wellFormed_of_mem_kindSelectors h.rules hselector).scope hnamespaced
  | spoke policy =>
      have hnamespaced : policy.kind.isNamespaced := congrArg PolicyKind.isNamespaced hkind
      have h := Spoke.Policy.findings_eq_nil_iff.mp hvalid
      have hrules : ∀ rule ∈ policy.toHub.spec.rules,
          rule.WellFormed (policy.toHub.matchContext scope) :=
        List.forall_mem_map.mpr fun rule hrule =>
          Spoke.Rule.wellFormed_toHub_iff.mpr (h.rules rule hrule)
      rw [kindSelectors, ← Spoke.Policy.kindSelectors_toHub] at hselector
      exact (Hub.Policy.wellFormed_of_mem_kindSelectors hrules hselector).scope hnamespaced

end AnyPolicy

/-- A valid policy in a namespace selects no cluster-scoped kind but by selectors that are misread,
and those are the selectors whose kind is not the one that is looked up. -/
theorem cluster_scoped_kinds_misread {policy : AnyPolicy} {kinds : List String}
    (hkind : policy.kind = .policy) (hvalid : policy.findings (.ofKinds kinds) = []) :
    ∀ selector ∈ policy.kindSelectors, KindSelector.kind selector ∉ kinds ∧
      ∀ before kind after, KindSelector.Names selector before kind after →
        (kind ∈ kinds → KindSelector.Misread before kind after) ∧
        (KindSelector.isWildcard kind = false →
          (KindSelector.kind selector ≠ kind ↔ KindSelector.Misread before kind after)) := by
  intro selector hselector
  have hlooked : KindSelector.kind selector ∉ kinds := by
    simpa [ResourceScope.ofKinds] using AnyPolicy.isClusterScoped_of_mem hkind hvalid hselector
  refine ⟨hlooked, fun before kind after hnames => ⟨fun hmem => ?_, hnames.kind_ne_iff⟩⟩
  by_contra hread
  rw [hnames.kind_eq hread] at hlooked
  exact hlooked hmem

/-- A policy in the namespace `team` that selects by one kind selector. -/
def Hub.Policy.selecting (selector : String) : Hub.Policy where
  kind := .policy
  metadata := { name := "sample", namespaceName := some "team" }
  spec := { rules := [{
    name := "sample"
    matchBlock := { any := [{ resources := { kinds := [selector] } }] }
    validation := some {} }] }

theorem cluster_scoped_kinds_misread_role :
    let policy := AnyPolicy.hub (.selecting "rbac.authorization.k8s.io/*/ClusterRole")
    policy.kind = .policy ∧ policy.findings .builtin = [] ∧
      KindSelector.Misread ["rbac.authorization.k8s.io", "*"] "ClusterRole" [] := by
  intro policy
  have hkind : policy.kind = .policy := rfl
  have hvalid : policy.findings .builtin = [] := by decide +kernel
  have hnames : KindSelector.Names "rbac.authorization.k8s.io/*/ClusterRole"
      ["rbac.authorization.k8s.io", "*"] "ClusterRole" [] :=
    ⟨by decide +kernel, by decide +kernel, by decide +kernel⟩
  obtain ⟨-, hselected⟩ := cluster_scoped_kinds_misread hkind hvalid _ (List.mem_singleton_self _)
  exact ⟨hkind, hvalid, (hselected _ _ _ hnames).1 (by decide +kernel)⟩

/-- A wildcard for the version lets a policy in a namespace select nodes. -/
theorem node_selected_in_namespace :
    let policy := AnyPolicy.hub (.selecting "*/Node")
    policy.kind = .policy ∧ policy.findings (.ofKinds ["Node"]) = [] ∧
      "*/Node" ∈ policy.kindSelectors ∧ KindSelector.Names "*/Node" ["*"] "Node" [] := by
  refine ⟨rfl, by decide +kernel, List.mem_singleton_self _, ?_⟩
  exact ⟨by decide +kernel, by decide +kernel, by decide +kernel⟩

end HubSpoke
