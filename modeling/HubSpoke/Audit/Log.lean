import HubSpoke.Audit.Event
import HubSpoke.Config.Basic
import HubSpoke.Workplace.Basic

/-!
# Audit logs

The settings say where events go: nowhere, among the errors, or to the end of a file.  A file is
opened, and created if need be, before there is anything to record.
-/

namespace HubSpoke

/-- Where events go. -/
inductive AuditLog where
  | discarded
  | reported
  | file (path : String)
deriving DecidableEq, Repr

/-- Why there is no log. -/
inductive AuditLogError where
  | pathMissing
  | file (cause : FileError)
deriving DecidableEq, Repr

def AuditLogError.message : AuditLogError → String
  | .pathMissing => ConfigDefect.auditPathMissing.message
  | .file cause => cause.message

namespace AuditLog

variable {m : Type → Type} [Monad m] [Workplace m]

/-- Opens the log that settings ask for. -/
def ofSettings (settings : AuditSettings) : m (Except AuditLogError AuditLog) :=
  match settings.sink, settings.path with
  | .none, _ => return .ok .discarded
  | .stderr, _ => return .ok .reported
  | .file, none => return .error .pathMissing
  | .file, some given => do
      let path := Text.trim given
      match ← Workplace.appendFile path "" with
      | .ok () => return .ok (.file path)
      | .error cause => return .error (.file cause)

/-- Records an event.  One that cannot be written is lost. -/
def record (log : AuditLog) (event : AuditEvent) : m Unit := do
  let line := event.line (← Workplace.now)
  match log with
  | .discarded => return
  | .reported => Workplace.reportLine line
  | .file path => do
      let _ ← Workplace.appendFile path (line ++ "\n")

end AuditLog

end HubSpoke
