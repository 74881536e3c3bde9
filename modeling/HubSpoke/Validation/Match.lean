import HubSpoke.Hub.Match
import HubSpoke.Spoke.Match
import HubSpoke.Validation.Defect
import HubSpoke.Validation.Scope

/-!
# Match blocks

A block selects by a list of filters of which one must hold, by a list all of which must hold, or
by an inline filter, and by no two of these together.  `MatchView` is what a block of either
version selects by.  Its filters are those of the hub, which have every field that a filter of
either version has; a filter of the spoke is viewed as one without a single name.

`evaluate` says whether a block selects, given verdicts on filters; `findings` says what is wrong
with a block.
-/

namespace HubSpoke

/-- What a match or exclude block selects by. -/
structure MatchView where
  any : List Hub.ResourceFilter
  all : List Hub.ResourceFilter
  inline : Option Hub.ResourceFilter
deriving DecidableEq

def Hub.MatchBlock.view (block : Hub.MatchBlock) : MatchView where
  any := block.any
  all := block.all
  inline := if block.hasInline then some { user := block.user, resources := block.resources }
    else none

def Spoke.ResourceFilter.view (filter : Spoke.ResourceFilter) : Hub.ResourceFilter where
  user := filter.user
  resources := {
    kinds := filter.resources.kinds
    name := ""
    names := filter.resources.names
    namespaces := filter.resources.namespaces
    annotations := filter.resources.annotations
    selector := filter.resources.selector
    namespaceSelector := filter.resources.namespaceSelector
    operations := filter.resources.operations }

def Spoke.MatchBlock.view (block : Spoke.MatchBlock) : MatchView where
  any := block.any.map Spoke.ResourceFilter.view
  all := block.all.map Spoke.ResourceFilter.view
  inline := none

/-- The filter constrains nothing. -/
def Hub.ResourceFilter.isEmpty (filter : Hub.ResourceFilter) : Bool :=
  filter.user.isEmpty && filter.resources.isEmpty

namespace MatchView

/-- The block selects nothing. -/
def isEmpty (view : MatchView) : Bool :=
  view.any.isEmpty && view.all.isEmpty && view.inline.isNone

/-! ## Evaluation -/

/-- Why a block cannot be evaluated. -/
inductive Conflict where
  | anyAndAll
  | inlineWithLists
deriving DecidableEq, Repr

def Conflict.defect : Conflict → Defect
  | .anyAndAll => .anyAndAll
  | .inlineWithLists => .inlineWithLists

/-- Both lists are in use. -/
def hasBothLists (view : MatchView) : Bool :=
  !view.any.isEmpty && !view.all.isEmpty

/-- The inline filter stands beside a list. -/
def hasInlineBesideList (view : MatchView) : Bool :=
  view.inline.isSome && (!view.any.isEmpty || !view.all.isEmpty)

/-- Whether the block selects, asking for verdicts in order and for none that is not needed. -/
def evaluate {m : Type → Type} [Monad m] (verdict : Hub.ResourceFilter → m Bool)
    (view : MatchView) : m (Except Conflict Bool) :=
  if view.hasBothLists then pure (.error .anyAndAll)
  else if view.hasInlineBesideList then pure (.error .inlineWithLists)
  else if !view.any.isEmpty then .ok <$> view.any.anyM verdict
  else if !view.all.isEmpty then .ok <$> view.all.allM verdict
  else match view.inline with
    | some filter => .ok <$> verdict filter
    | none => pure (.ok false)

end MatchView

/-! ## Findings -/

/-- Whether requests come with a user. -/
inductive MatchMode where
  /-- Requests are seen as they are admitted. -/
  | admission
  /-- Existing resources are scanned, for which no user asks. -/
  | background
deriving DecidableEq, Repr

/-- The mode of a policy, whose background processing is on unless it is turned off. -/
def MatchMode.ofBackground (background : Option Bool) : MatchMode :=
  if background = some false then .admission else .background

/-- What a block is validated against. -/
structure MatchContext where
  mode : MatchMode
  /-- The policy lives in a namespace. -/
  namespaced : Bool
  /-- The namespace of the policy, if it has one. -/
  namespaceName : Option String
  scope : ResourceScope

/-- What is wrong with a label requirement. -/
def LabelRequirement.findings (path : FieldPath) (r : LabelRequirement) : List Finding :=
  Finding.require (!Text.isBlank r.key) (path.child "key") .requirementKeyBlank ++
  if r.operator = "In" ∨ r.operator = "NotIn" then
    Finding.require (!r.values.isEmpty) (path.child "values") (.requirementValuesMissing r.operator)
  else if r.operator = "Exists" ∨ r.operator = "DoesNotExist" then
    Finding.require r.values.isEmpty (path.child "values") (.requirementValuesGiven r.operator)
  else [⟨path.child "operator", .requirementOperatorUnknown⟩]

/-- What is wrong with a label selector. -/
def LabelSelector.findings (path : FieldPath) (s : LabelSelector) : List Finding :=
  Finding.require (s.matchLabels.keys.all fun key => !Text.isBlank key) (path.child "matchLabels")
    .labelKeyBlank ++
  s.matchExpressions.zipIdx.flatMap fun (requirement, position) =>
    requirement.findings ((path.child "matchExpressions").index position)

/-- What is wrong with a subject. -/
def Subject.findings (path : FieldPath) (s : Subject) : List Finding :=
  Finding.require (Defect.subjectKinds.contains s.kind) (path.child "kind") .subjectKindUnknown ++
  Finding.require (!Text.isBlank s.name) (path.child "name") .subjectNameMissing ++
  Finding.require (s.kind ≠ "ServiceAccount" ∨ !Text.isBlank s.namespaceName)
    (path.child "namespace") .subjectNamespaceMissing

/-- What is wrong with the user of a filter. -/
def UserInfo.findings (mode : MatchMode) (path : FieldPath) (user : UserInfo) : List Finding :=
  match mode with
  | .background =>
      Finding.require user.roles.isEmpty (path.child "roles") (.userInfoInBackground "roles") ++
      Finding.require user.clusterRoles.isEmpty (path.child "clusterRoles")
        (.userInfoInBackground "clusterRoles") ++
      Finding.require user.subjects.isEmpty (path.child "subjects")
        (.userInfoInBackground "subjects")
  | .admission => user.subjects.zipIdx.flatMap fun (subject, position) =>
      subject.findings ((path.child "subjects").index position)

/-- What is wrong with a kind selector. -/
def KindSelector.findings (context : MatchContext) (path : FieldPath) (selector : String) :
    List Finding :=
  if !isWellFormed selector then [⟨path, .kindMalformed selector⟩]
  else Finding.require (!(context.namespaced && context.scope.isClusterScoped (kind selector)))
    path (.kindClusterScoped (kind selector))

/-- The namespaces of a filter other than the policy's own. -/
def Hub.ResourceDescription.namespaceFindings (context : MatchContext) (path : FieldPath)
    (d : ResourceDescription) : List Finding :=
  match context.namespaced, context.namespaceName with
  | true, some own => d.namespaces.zipIdx.flatMap fun (name, position) =>
      Finding.require (name = own) ((path.child "namespaces").index position)
        (.namespaceForeign own)
  | _, _ => []

/-- What is wrong with the resources of a filter. -/
def Hub.ResourceDescription.findings (context : MatchContext) (path : FieldPath)
    (d : ResourceDescription) : List Finding :=
  Finding.require (d.name.isEmpty || d.names.isEmpty) path .nameAndNames ++
  (d.kinds.zipIdx.flatMap fun (selector, position) =>
    KindSelector.findings context ((path.child "kinds").index position) selector) ++
  d.namespaceFindings context path ++
  Finding.require (d.annotations.keys.all fun key => !Text.isBlank key) (path.child "annotations")
    .annotationKeyBlank ++
  d.selector.toList.flatMap (LabelSelector.findings (path.child "selector")) ++
  d.namespaceSelector.toList.flatMap (LabelSelector.findings (path.child "namespaceSelector"))

/-- What is wrong with a filter.  An empty one has that defect alone. -/
def Hub.ResourceFilter.findings (context : MatchContext) (path : FieldPath)
    (filter : ResourceFilter) : List Finding :=
  if filter.isEmpty then [⟨path, .emptyFilter⟩]
  else filter.user.findings context.mode path ++
    filter.resources.findings context (path.child "resources")

/-- What is wrong with a block: conflicts first, then its filters in order. -/
def MatchView.findings (context : MatchContext) (path : FieldPath) (view : MatchView) :
    List Finding :=
  Finding.require (!view.hasBothLists) path .anyAndAll ++
  Finding.require (!view.hasInlineBesideList) path .inlineWithLists ++
  (view.any.zipIdx.flatMap fun (filter, position) =>
    filter.findings context ((path.child "any").index position)) ++
  (view.all.zipIdx.flatMap fun (filter, position) =>
    filter.findings context ((path.child "all").index position)) ++
  view.inline.toList.flatMap (Hub.ResourceFilter.findings context path)

end HubSpoke
