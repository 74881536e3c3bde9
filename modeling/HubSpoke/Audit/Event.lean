import HubSpoke.Json.Text

/-!
# Audit events

Every answered review and every validation leaves one event, told in one line of JSON.
-/

namespace HubSpoke

/-- How an audited action ended. -/
inductive AuditOutcome where
  | success
  | failure
deriving DecidableEq, Repr

def AuditOutcome.name : AuditOutcome → String
  | .success => "success"
  | .failure => "failure"

/-- What is recorded of an answered review. -/
structure ReviewEvent where
  uid : String
  desiredVersion : String
  objectCount : Nat
  convertedCount : Nat := 0
  restoredCount : Nat := 0
  stashedCount : Nat := 0
  outcome : AuditOutcome := .success
  /-- The label of the error that failed the batch. -/
  errorLabel : Option String := none
  message : Option String := none
deriving DecidableEq

/-- What is recorded of a validation. -/
structure ValidationEvent where
  version : String
  name : String
  namespaceName : Option String := none
  findings : List String
deriving DecidableEq

inductive AuditEvent where
  | review (event : ReviewEvent)
  | validation (event : ValidationEvent)
deriving DecidableEq

namespace AuditEvent

/-- The members of an event after its name and its time. -/
def details : AuditEvent → List (String × Json)
  | .review e => [
      ("request_uid", .str e.uid),
      ("desired_api_version", .str e.desiredVersion),
      ("object_count", .int e.objectCount),
      ("converted_count", .int e.convertedCount),
      ("restored_count", .int e.restoredCount),
      ("stashed_count", .int e.stashedCount),
      ("outcome", .str e.outcome.name),
      ("error_kind", Json.textOrNull e.errorLabel),
      ("message", Json.textOrNull e.message)]
  | .validation e => [
      ("api_version", .str e.version),
      ("name", .str e.name),
      ("namespace", Json.textOrNull e.namespaceName),
      ("outcome", .str (if e.findings.isEmpty then AuditOutcome.success else .failure).name),
      ("finding_count", .int e.findings.length),
      ("findings", .arr (e.findings.map .str))]

def name : AuditEvent → String
  | .review _ => "conversion_review"
  | .validation _ => "policy_validation"

/-- The line that logs an event at a time, in milliseconds. -/
def line (time : Nat) (event : AuditEvent) : String :=
  (Json.obj (("event", .str event.name) :: ("timestamp_ms", .int time) :: event.details)).compact

end AuditEvent

end HubSpoke
