import HubSpoke.Policy.Selector

/-!
# Policy controls

The settings that say when a policy applies and what follows from a failure.
-/

namespace HubSpoke

/-- The kind of a policy object. -/
inductive PolicyKind where
  /-- Cluster-wide. -/
  | clusterPolicy
  /-- Within one namespace. -/
  | policy
deriving DecidableEq, Repr

namespace PolicyKind

def name : PolicyKind → String
  | .clusterPolicy => "ClusterPolicy"
  | .policy => "Policy"

/-- The policy lives in a namespace. -/
def isNamespaced : PolicyKind → Bool
  | .clusterPolicy => false
  | .policy => true

def codec : Codec PolicyKind :=
  .choice [("ClusterPolicy", .clusterPolicy), ("Policy", .policy)] name

end PolicyKind

/-- An operation a filter can match. -/
inductive AdmissionOperation where
  | create
  | update
  | delete
  | connect
deriving DecidableEq, Repr

namespace AdmissionOperation

def name : AdmissionOperation → String
  | .create => "CREATE"
  | .update => "UPDATE"
  | .delete => "DELETE"
  | .connect => "CONNECT"

def codec : Codec AdmissionOperation :=
  .choice [("CREATE", .create), ("UPDATE", .update), ("DELETE", .delete), ("CONNECT", .connect)]
    name

end AdmissionOperation

/-- Whether one or all matching rules apply. -/
inductive ApplyRules where
  | one
  | all
deriving DecidableEq, Repr

def ApplyRules.codec : Codec ApplyRules :=
  .choice [("One", .one), ("All", .all)] fun
    | .one => "One"
    | .all => "All"

/-- What follows when the webhook cannot be reached. -/
inductive FailurePolicy where
  /-- The request is admitted. -/
  | ignore
  /-- The request is rejected. -/
  | fail
deriving DecidableEq, Repr

def FailurePolicy.codec : Codec FailurePolicy :=
  .choice [("Ignore", .ignore), ("Fail", .fail)] fun
    | .ignore => "Ignore"
    | .fail => "Fail"

/-- What follows from a failed validation. -/
inductive FailureAction where
  /-- The failure is reported and the request admitted. -/
  | audit
  /-- The request is rejected. -/
  | enforce
deriving DecidableEq, Repr

namespace FailureAction

def name : FailureAction → String
  | .audit => "Audit"
  | .enforce => "Enforce"

/-- An action in JSON; the names are also read in lower case. -/
def codec : Codec FailureAction :=
  .choice [("Audit", .audit), ("audit", .audit), ("Enforce", .enforce), ("enforce", .enforce)] name

/-- An action that may be unset, which stands for audit, amounts to audit. -/
def resolvesToAudit (action : Option FailureAction) : Bool :=
  action ≠ some .enforce

end FailureAction

/-- A failure action for some namespaces. -/
structure ActionOverride where
  action : FailureAction
  namespaces : List String := []
  namespaceSelector : Option LabelSelector := none
deriving DecidableEq

def ActionOverride.codec : Codec ActionOverride :=
  .record "ValidationFailureActionOverride" <|
    ActionOverride.mk
      <$> .required "action" FailureAction.codec ActionOverride.action
      <*> .list "namespaces" .text ActionOverride.namespaces
      <*> .optional "namespaceSelector" LabelSelector.codec ActionOverride.namespaceSelector

/-- A condition on requests that gates the webhook. -/
structure MatchCondition where
  name : String
  expression : String
deriving DecidableEq

def MatchCondition.codec : Codec MatchCondition :=
  .record "MatchCondition" <|
    MatchCondition.mk
      <$> .required "name" .text MatchCondition.name
      <*> .required "expression" .text MatchCondition.expression

/-- Settings of the webhook that serves a policy. -/
structure WebhookConfiguration where
  failurePolicy : Option FailurePolicy := none
  timeoutSeconds : Option Int32 := none
  matchConditions : List MatchCondition := []
deriving DecidableEq

def WebhookConfiguration.codec : Codec WebhookConfiguration :=
  .record "WebhookConfiguration" <|
    WebhookConfiguration.mk
      <$> .optional "failurePolicy" FailurePolicy.codec WebhookConfiguration.failurePolicy
      <*> .optional "timeoutSeconds" .int32 WebhookConfiguration.timeoutSeconds
      <*> .list "matchConditions" MatchCondition.codec WebhookConfiguration.matchConditions

end HubSpoke
