import EventLedger.Settings
import EventLedger.Settings.Leaf

/-!
# Fields of the settings

Each field has a name, in the section to which it belongs if it belongs to one, a value of some
kind, and a variable of its own.
-/
namespace EventLedger.Settings

/-- A field of the settings. -/
inductive Field where
  /-- The name of the service. -/
  | serviceName
  /-- The name of its environment. -/
  | environment
  /-- The address of the database. -/
  | databaseUrl
  /-- The most connections at a time. -/
  | maxConnections
  /-- The fewest connections to keep. -/
  | minConnections
  /-- The seconds to wait for a connection. -/
  | connectTimeout
  /-- The seconds after which an unused connection is closed. -/
  | idleTimeout
  /-- The seconds in which the database must answer at the start. -/
  | pingTimeout
  /-- The address of the broker. -/
  | brokerUrl
  /-- The queue of usage events. -/
  | usageQueue
  /-- The queue of audit events. -/
  | auditQueue
  /-- The most deliveries that are not settled. -/
  | prefetch
  /-- The milliseconds between a failed session and the next. -/
  | retryDelay
  /-- The milliseconds that one message may take. -/
  | handleTimeout
  /-- The least level that is logged. -/
  | logLevel
  /-- The form of the log. -/
  | logFormat
  /-- Whether metrics are served. -/
  | metricsEnabled
  /-- The port number at which they are served. -/
  | metricsPort
  deriving DecidableEq, Repr

namespace Field

/-- All fields. -/
def all : List Field :=
  [.serviceName, .environment, .databaseUrl, .maxConnections, .minConnections, .connectTimeout,
    .idleTimeout, .pingTimeout, .brokerUrl, .usageQueue, .auditQueue, .prefetch, .retryDelay,
    .handleTimeout, .logLevel, .logFormat, .metricsEnabled, .metricsPort]

/-- The name of a field in its section. -/
def name : Field → String
  | .serviceName => "service_name"
  | .environment => "environment"
  | .databaseUrl => "url"
  | .maxConnections => "max_connections"
  | .minConnections => "min_connections"
  | .connectTimeout => "connect_timeout_seconds"
  | .idleTimeout => "idle_timeout_seconds"
  | .pingTimeout => "ping_timeout_seconds"
  | .brokerUrl => "url"
  | .usageQueue => "usage_queue"
  | .auditQueue => "audit_queue"
  | .prefetch => "prefetch_count"
  | .retryDelay => "retry_delay_ms"
  | .handleTimeout => "handle_timeout_ms"
  | .logLevel => "log_level"
  | .logFormat => "log_format"
  | .metricsEnabled => "metrics_enabled"
  | .metricsPort => "metrics_port"

/-- The section of a field, if it belongs to one. -/
def section? : Field → Option String
  | .serviceName | .environment => none
  | .databaseUrl | .maxConnections | .minConnections | .connectTimeout | .idleTimeout |
    .pingTimeout =>
    some "database"
  | .brokerUrl | .usageQueue | .auditQueue | .prefetch => some "rabbitmq"
  | .retryDelay | .handleTimeout => some "worker"
  | .logLevel | .logFormat | .metricsEnabled | .metricsPort => some "observability"

/-- The names that lead to a field. -/
def keys (field : Field) : List String := field.section?.toList ++ [field.name]

/-- The kind of the value of a field. -/
def kind : Field → Kind
  | .serviceName | .environment | .databaseUrl | .brokerUrl | .usageQueue | .auditQueue |
    .logLevel | .logFormat => .text
  | .prefetch | .metricsPort => .word16
  | .maxConnections | .minConnections => .word32
  | .connectTimeout | .idleTimeout | .pingTimeout | .retryDelay | .handleTimeout => .word64
  | .metricsEnabled => .truth

/-- The value of a field. -/
def value (settings : Settings) : (field : Field) → field.kind.Value
  | .serviceName => settings.serviceName
  | .environment => settings.environment
  | .databaseUrl => settings.database.url
  | .maxConnections => settings.database.maxConnections
  | .minConnections => settings.database.minConnections
  | .connectTimeout => settings.database.connectTimeoutSeconds
  | .idleTimeout => settings.database.idleTimeoutSeconds
  | .pingTimeout => settings.database.pingTimeoutSeconds
  | .brokerUrl => settings.broker.url
  | .usageQueue => settings.broker.usageQueue
  | .auditQueue => settings.broker.auditQueue
  | .prefetch => settings.broker.prefetch
  | .retryDelay => settings.worker.retryDelayMillis
  | .handleTimeout => settings.worker.handleTimeoutMillis
  | .logLevel => settings.observability.logLevel
  | .logFormat => settings.observability.logFormat
  | .metricsEnabled => settings.observability.metricsEnabled
  | .metricsPort => settings.observability.metricsPort

/-- The settings with a value of a field. -/
def set (settings : Settings) : (field : Field) → field.kind.Value → Settings
  | .serviceName, value => { settings with serviceName := value }
  | .environment, value => { settings with environment := value }
  | .databaseUrl, value => { settings with database.url := value }
  | .maxConnections, value => { settings with database.maxConnections := value }
  | .minConnections, value => { settings with database.minConnections := value }
  | .connectTimeout, value => { settings with database.connectTimeoutSeconds := value }
  | .idleTimeout, value => { settings with database.idleTimeoutSeconds := value }
  | .pingTimeout, value => { settings with database.pingTimeoutSeconds := value }
  | .brokerUrl, value => { settings with broker.url := value }
  | .usageQueue, value => { settings with broker.usageQueue := value }
  | .auditQueue, value => { settings with broker.auditQueue := value }
  | .prefetch, value => { settings with broker.prefetch := value }
  | .retryDelay, value => { settings with worker.retryDelayMillis := value }
  | .handleTimeout, value => { settings with worker.handleTimeoutMillis := value }
  | .logLevel, value => { settings with observability.logLevel := value }
  | .logFormat, value => { settings with observability.logFormat := value }
  | .metricsEnabled, value => { settings with observability.metricsEnabled := value }
  | .metricsPort, value => { settings with observability.metricsPort := value }

/-- A text in upper case. -/
def upperCase (word : String) : String := String.ofList (word.toList.map Char.toUpper)

/-- The name of the variable of a field. -/
def variableName (field : Field) : String :=
  "__".intercalate ("MINICHAT" :: field.keys.map upperCase)

end Field

end EventLedger.Settings
