import EventLedger.ServiceError
import EventLedger.Settings.Field

/-!
# Legacy variables

Eight settings can also be given by variables with older names. The variables are applied one
after another; one that is missing or empty changes nothing, and one whose value cannot be read
ends the application with an error, leaving in effect what came before it.
-/
namespace EventLedger

/-- A variable with an older name. -/
inductive LegacyVariable where
  /-- The address of the broker. -/
  | brokerUrl
  /-- The address of the database. -/
  | databaseUrl
  /-- The least level that is logged. -/
  | logLevel
  /-- The queue of usage events. -/
  | usageQueue
  /-- The queue of audit events. -/
  | auditQueue
  /-- The most deliveries that are not settled. -/
  | prefetch
  /-- The milliseconds between sessions. -/
  | retryDelay
  /-- The milliseconds that a message may take. -/
  | handleTimeout
  deriving DecidableEq, Repr

namespace LegacyVariable

/-- The variables in the order in which they are applied. -/
def all : List LegacyVariable :=
  [.brokerUrl, .databaseUrl, .logLevel, .usageQueue, .auditQueue, .prefetch, .retryDelay,
    .handleTimeout]

/-- The name of a variable. -/
def name : LegacyVariable → String
  | .brokerUrl => "RABBITMQ_URL"
  | .databaseUrl => "DATABASE_URL"
  | .logLevel => "WORKER_LOG_LEVEL"
  | .usageQueue => "WORKER_USAGE_QUEUE"
  | .auditQueue => "WORKER_AUDIT_QUEUE"
  | .prefetch => "WORKER_PREFETCH"
  | .retryDelay => "WORKER_RETRY_DELAY_MS"
  | .handleTimeout => "WORKER_HANDLE_TIMEOUT_MS"

/-- The error of a variable whose value cannot be read. -/
def unreadable (origin : LegacyVariable) (raw : String) : ServiceError :=
  .invalidSetting origin.name ("无法解析的值: " ++ raw)

/-- The field to which a variable gives a value. -/
def field : LegacyVariable → Settings.Field
  | .brokerUrl => .brokerUrl
  | .databaseUrl => .databaseUrl
  | .logLevel => .logLevel
  | .usageQueue => .usageQueue
  | .auditQueue => .auditQueue
  | .prefetch => .prefetch
  | .retryDelay => .retryDelay
  | .handleTimeout => .handleTimeout

/-- The settings with the value of a variable. -/
def apply (origin : LegacyVariable) (raw : String) (settings : Settings) :
    Except ServiceError Settings :=
  match origin.field.kind.ofText? raw with
  | some value => .ok (origin.field.set settings value)
  | none => .error (origin.unreadable raw)

end LegacyVariable

namespace Settings

/-- Apply variables in order until one cannot be read: the settings then in effect, and the
error. -/
def applyVariables (lookup : String → Option String) :
    List LegacyVariable → Settings → Settings × Except ServiceError Unit
  | [], settings => (settings, .ok ())
  | origin :: rest, settings =>
    match lookup origin.name with
    | none => applyVariables lookup rest settings
    | some raw =>
      if raw = "" then applyVariables lookup rest settings
      else
        match origin.apply raw settings with
        | .ok changed => applyVariables lookup rest changed
        | .error error => (settings, .error error)

/-- Apply all legacy variables. -/
def applyLegacy (lookup : String → Option String) (settings : Settings) :
    Settings × Except ServiceError Unit :=
  applyVariables lookup LegacyVariable.all settings

end Settings

end EventLedger
