import HubSpoke.Validation.Match
import Mathlib.Data.List.Nodup

/-!
# What a wording gives away

A finding tells what is wrong by its wording alone.  Whoever looks for the findings of some wording
has to know that no other defect is worded alike, and which checks find the defect.  Of both, the
larger part does not depend on the wording that is looked for: defects that name something of the
document are known by a letter that the document has no part in, and the checks on filters find no
defects but their own.
-/

namespace HubSpoke

/-! ## First and last letters -/

namespace Text

theorem head?_append {first rest : String} {c : Char} (h : first.toList.head? = some c) :
    (first ++ rest).toList.head? = some c := by
  rw [String.toList_append, List.head?_append, h, Option.some_or]

theorem getLast?_append {first rest : String} {c : Char} (h : rest.toList.getLast? = some c) :
    (first ++ rest).toList.getLast? = some c := by
  rw [String.toList_append, List.getLast?_append, h, Option.some_or]

end Text

namespace Defect

/-- The wording of the defect names something of the document. -/
def namesText : Defect → Bool
  | .ruleNameRepeated _ | .userInfoInBackground _ | .kindMalformed _ | .kindClusterScoped _
  | .namespaceForeign _ | .requirementValuesMissing _ | .requirementValuesGiven _ => true
  | _ => false

/-- The letters that begin a wording which goes on with something of the document. -/
def openingLetters : List Char := ['D', 'k', 'c', 'a', 'v']

/-- What the document says does not matter at one of the ends of a wording. -/
theorem letter_of_namesText {defect : Defect} (h : defect.namesText) :
    (∃ letter ∈ openingLetters, defect.message.toList.head? = some letter) ∨
      defect.message.toList.getLast? = some 'd' := by
  cases defect with
  | userInfoInBackground field => exact .inr (Text.getLast?_append (by decide +kernel))
  | ruleNameRepeated name =>
      exact .inl ⟨'D', by decide, Text.head?_append (Text.head?_append (by decide +kernel))⟩
  | kindMalformed selector =>
      exact .inl ⟨'k', by decide, Text.head?_append (Text.head?_append (by decide +kernel))⟩
  | kindClusterScoped kind =>
      exact .inl ⟨'c', by decide, Text.head?_append (Text.head?_append (by decide +kernel))⟩
  | namespaceForeign own => exact .inl ⟨'a', by decide, Text.head?_append (by decide +kernel)⟩
  | requirementValuesMissing operator =>
      exact .inl ⟨'v', by decide, Text.head?_append (by decide +kernel)⟩
  | requirementValuesGiven operator =>
      exact .inl ⟨'v', by decide, Text.head?_append (by decide +kernel)⟩
  | _ => cases h

/-- The defects whose wording does not depend on the document. -/
def namingNothing : List Defect :=
  [.nameMissing, .namespaceMissing, .allProcessingDisabled, .timeoutOutOfRange, .noRules,
    .ruleNameMissing, .ruleNameTooLong, .ruleDoesNothing, .ruleMatchesNothing, .anyAndAll,
    .inlineWithLists, .emptyFilter, .subjectKindUnknown, .subjectNameMissing,
    .subjectNamespaceMissing, .nameAndNames, .annotationKeyBlank, .labelKeyBlank,
    .requirementKeyBlank, .requirementOperatorUnknown, .mutateDigestInAudit,
    .imageReferenceMissing, .attestorEntriesMissing, .attestorCountOutOfRange,
    .attestorUndescribed, .notaryKeysAndKeyless, .notaryKeyless, .notaryKeys]

theorem mem_namingNothing {defect : Defect} (h : defect.namesText = false) :
    defect ∈ namingNothing := by
  cases defect <;> first | decide | cases h

/-- No two of them are worded alike. -/
theorem messages_nodup : (namingNothing.map message).Nodup := by
  decide +kernel

/-- The wording of the defect has at its ends none of the letters that tell one which names
something of the document. -/
def hasOwnLetters (defect : Defect) : Bool :=
  (defect.message.toList.head?.all fun letter => !openingLetters.contains letter) &&
    defect.message.toList.getLast? ≠ some 'd'

/-- A defect with its own letters is known by its wording. -/
theorem eq_of_message_eq {defect other : Defect} (hletters : other.hasOwnLetters)
    (h : defect.message = other.message) : defect = other := by
  obtain ⟨hfirst, hlast⟩ := Bool.and_eq_true_iff.mp hletters
  have hnothing {told : Defect} (htold : told.message = other.message) :
      told.namesText = false := by
    by_contra hnames
    rcases letter_of_namesText (by simpa using hnames) with ⟨letter, hletter, heq⟩ | heq
    · rw [← htold, heq] at hfirst
      simp [hletter] at hfirst
    · rw [← htold, heq] at hlast
      simp at hlast
  exact List.inj_on_of_nodup_map messages_nodup (mem_namingNothing (hnothing h))
    (mem_namingNothing (hnothing rfl)) h

end Defect

/-! ## Checks on filters -/

/-- The defect is one of a filter: of its users, its resources, or of the filter as a whole. -/
def Defect.isOfFilter : Defect → Bool
  | .emptyFilter | .userInfoInBackground _ | .subjectKindUnknown | .subjectNameMissing
  | .subjectNamespaceMissing | .nameAndNames | .kindMalformed _ | .kindClusterScoped _
  | .namespaceForeign _ | .annotationKeyBlank | .labelKeyBlank | .requirementKeyBlank
  | .requirementValuesMissing _ | .requirementValuesGiven _ | .requirementOperatorUnknown => true
  | _ => false

namespace Finding

/-- All findings are of filters. -/
def OfFilters (findings : List Finding) : Prop :=
  ∀ finding ∈ findings, finding.defect.isOfFilter

namespace OfFilters

variable {path : FieldPath} {defect : Defect}

theorem single (h : defect.isOfFilter) : OfFilters [⟨path, defect⟩] :=
  List.forall_mem_singleton.mpr h

theorem require {met : Bool} (h : defect.isOfFilter) :
    OfFilters (Finding.require met path defect) := by
  cases met with
  | true => exact nofun
  | false => exact .single h

theorem append {first second : List Finding} (hfirst : OfFilters first)
    (hsecond : OfFilters second) : OfFilters (first ++ second) :=
  List.forall_mem_append.mpr ⟨hfirst, hsecond⟩

theorem flatMap {α : Type} {items : List α} {findings : α → List Finding}
    (h : ∀ item ∈ items, OfFilters (findings item)) : OfFilters (items.flatMap findings) := by
  intro finding hfinding
  obtain ⟨item, hitem, hmem⟩ := List.mem_flatMap.mp hfinding
  exact h item hitem finding hmem

end OfFilters

end Finding

open Finding (OfFilters)

theorem LabelRequirement.ofFilters (path : FieldPath) (r : LabelRequirement) :
    OfFilters (r.findings path) := by
  refine .append (.require rfl) ?_
  split
  · exact .require rfl
  · split
    · exact .require rfl
    · exact .single rfl

theorem LabelSelector.ofFilters (path : FieldPath) (s : LabelSelector) :
    OfFilters (s.findings path) :=
  .append (.require rfl) (.flatMap fun item _ => item.1.ofFilters _)

theorem Subject.ofFilters (path : FieldPath) (s : Subject) : OfFilters (s.findings path) :=
  .append (.append (.require rfl) (.require rfl)) (.require rfl)

theorem UserInfo.ofFilters (mode : MatchMode) (path : FieldPath) (user : UserInfo) :
    OfFilters (user.findings mode path) := by
  cases mode with
  | background => exact .append (.append (.require rfl) (.require rfl)) (.require rfl)
  | admission => exact .flatMap fun item _ => item.1.ofFilters _

theorem KindSelector.ofFilters (context : MatchContext) (path : FieldPath) (selector : String) :
    OfFilters (findings context path selector) := by
  rw [findings]
  split
  · exact .single rfl
  · exact .require rfl

namespace Hub

theorem ResourceDescription.ofFilters_namespaces (context : MatchContext) (path : FieldPath)
    (d : ResourceDescription) : OfFilters (d.namespaceFindings context path) := by
  rw [namespaceFindings]
  split
  case h_1 => exact .flatMap fun _ _ => .require rfl
  case h_2 => exact List.forall_mem_nil _

theorem ResourceDescription.ofFilters (context : MatchContext) (path : FieldPath)
    (d : ResourceDescription) : OfFilters (d.findings context path) := by
  refine .append (.append (.append (.append (.append ?name ?kinds) ?namespaces) ?annotations)
    ?selector) ?namespaceSelector
  case name => exact .require rfl
  case kinds => exact .flatMap fun item _ => KindSelector.ofFilters _ _ _
  case namespaces => exact d.ofFilters_namespaces context path
  case annotations => exact .require rfl
  case selector => exact .flatMap fun s _ => s.ofFilters _
  case namespaceSelector => exact .flatMap fun s _ => s.ofFilters _

theorem ResourceFilter.ofFilters (context : MatchContext) (path : FieldPath)
    (filter : ResourceFilter) : OfFilters (filter.findings context path) := by
  rw [findings]
  split
  · exact .single rfl
  · exact .append (filter.user.ofFilters _ _) (filter.resources.ofFilters _ _)

end Hub

/-! ## Blocks -/

namespace MatchView

variable {context : MatchContext} {path : FieldPath} {view : MatchView}

/-- The conflicts told of a block. -/
def conflictFindings (path : FieldPath) (view : MatchView) : List Finding :=
  Finding.require (!view.hasBothLists) path .anyAndAll ++
    Finding.require (!view.hasInlineBesideList) path .inlineWithLists

/-- What is told of the filters of a block. -/
def filterFindings (context : MatchContext) (path : FieldPath) (view : MatchView) : List Finding :=
  (view.any.zipIdx.flatMap fun (filter, position) =>
    filter.findings context ((path.child "any").index position)) ++
  (view.all.zipIdx.flatMap fun (filter, position) =>
    filter.findings context ((path.child "all").index position)) ++
  view.inline.toList.flatMap (Hub.ResourceFilter.findings context path)

theorem findings_eq (context : MatchContext) (path : FieldPath) (view : MatchView) :
    view.findings context path =
      view.conflictFindings path ++ view.filterFindings context path := by
  simp only [findings, conflictFindings, filterFindings, List.append_assoc]

theorem ofFilters (context : MatchContext) (path : FieldPath) (view : MatchView) :
    OfFilters (view.filterFindings context path) :=
  .append (.append (.flatMap fun item _ => item.1.ofFilters _ _)
    (.flatMap fun item _ => item.1.ofFilters _ _)) (.flatMap fun f _ => f.ofFilters _ _)

end MatchView

end HubSpoke
