import EventLedger.Broker.Session
import EventLedger.Database.Pool
import EventLedger.Log.Filter
import EventLedger.Settings.Loading
import EventLedger.Supervision

/-!
# The service

The service loads its settings, starts to be observed, reaches its database, and then supervises
sessions with the broker until it is asked to stop. Each step is taken only if the one before it
went well. At the end the pool is closed, after the last session; the service has ended when that
has been done, if it ever is.
-/
namespace EventLedger.Service

/-- The name by which the service finds its settings. -/
def serviceName : String := "minichat-worker"

/-- The component that starts and ends the service. -/
def logTarget : String := "minichat_worker"

/-- The component that watches the service. -/
def observationTarget : String := "minichat_shared::observability"

/-- The component that serves metrics. -/
def metricsTarget : String := "minichat_shared::observability::metrics"

/-- Why the service cannot run. -/
inductive Failure where
  /-- Its settings or its database. -/
  | service (error : ServiceError)
  /-- The metrics cannot be served, for a reason. -/
  | unserved (reason : String)
  /-- The process breaks off with a message. -/
  | brokenOff (message : String)
  deriving DecidableEq, Repr

namespace Failure

/-- What is shown of a failure. -/
def message : Failure → String
  | .service error => error.message
  | .unserved reason => reason
  | .brokenOff message => message

/-- The code with which the process ends. -/
def exitCode : Failure → UInt32
  | .service _ | .unserved _ => 1
  | .brokenOff _ => 101

/-- There is no pool for a reason. -/
def ofPool : Database.Pool.Failure → Failure
  | .error cause => .service cause
  | .brokenOff message => .brokenOff message

end Failure

/-- What the service meets besides its broker. -/
structure Surroundings (σ : Type) where
  /-- How the database replies. -/
  peer : Database.Peer σ
  /-- The database. -/
  database : σ
  /-- What is found at addresses of databases. -/
  network : Database.Address → Database.Reach
  /-- Why the metrics cannot be served where they shall be, if so. -/
  metricsRefusal : Option String
  /-- The seconds that the clock can go on. -/
  horizon : Nat
  /-- The milliseconds that it takes to close the pool; none if that never ends. -/
  closing : Option Nat

/-- The settings of the service. -/
def load (formats : Settings.Formats) (environment : Settings.Environment) (files : FileTree) :
    Except Failure Settings :=
  (Settings.load formats serviceName environment files).mapError .service

/-- The filter of the service's log. -/
def filter (environment : Settings.Environment) (files : FileTree) (settings : Settings) :
    Log.Filter :=
  .choose ((Settings.completeEnvironment environment files).find? "RUST_LOG")
    settings.observability.logLevel

variable {σ : Type}

/-- Serve metrics, if that is wanted. -/
def serveMetrics (settings : ObservabilitySettings) (refusal : Option String) :
    Sim (Except Failure Unit) := do
  if !settings.metricsEnabled then return .ok ()
  else
    match refusal with
    | some reason => return .error (.unserved reason)
    | none =>
      Sim.log .info metricsTarget
        ("Metrics server listening on 0.0.0.0:" ++ toString settings.metricsPort) []
      return .ok ()

/-- Begin to be observed. -/
def startObservation (settings : Settings) (metricsRefusal : Option String) :
    Sim (Except Failure Unit) := do
  let watch := settings.observability
  Sim.log .info observationTarget "Observability initialized"
    [("service", settings.serviceName), ("log_level", watch.logLevel),
      ("metrics_enabled", Log.boolText watch.metricsEnabled)]
  serveMetrics watch metricsRefusal

/-- End to be observed with what has come of the service, if it has ended. -/
def endObservation : Option (Except Failure Unit) → Sim (Option (Except Failure Unit))
  | none => return none
  | some result => do
    Sim.log .info observationTarget "Shutting down observability..." []
    return some result

/-- Say that the service starts. -/
def reportStart (settings : Settings) : Sim Unit :=
  Sim.log .info logTarget "Starting minichat-worker..."
    [("environment", settings.environment), ("usage_queue", settings.broker.usageQueue),
      ("audit_queue", settings.broker.auditQueue)]

/-- Say how supervision ended. -/
def reportEnd : SupervisionEnd → Sim Unit
  | .completed => Sim.log .info logTarget "worker exited gracefully" []
  | .cancelled => Sim.log .info logTarget "worker stopped" []

/-- The attempts at sessions; if the signal comes with the end of a delay, it goes first. -/
def attempts (sessions : List Broker.Session) : List (Supervision.Attempt Broker.Session) :=
  sessions.map fun session => { session, tie := .signal }

/-- End when supervision has ended: close the pool, and then all is done. -/
def shutDown (closing : Option Nat) (ending : SupervisionEnd) : Sim (Option Unit) := do
  reportEnd ending
  match ← Database.Pool.close closing with
  | none => return none
  | some () =>
    Sim.log .info logTarget "Service shutdown complete" []
    return some ()

/-- Consume until a stop is asked for. -/
def consume (settings : Settings) (closing : Option Nat) (sessions : List Broker.Session) :
    Sim (Option Unit) := do
  let retryDelay := settings.worker.retryDelayMillis.toNat
  let runSession := Broker.Session.run settings.consumer settings.broker.prefetch
  let (ending, _) ← Supervision.supervise retryDelay runSession (attempts sessions)
  shutDown closing ending

/-- Reach the database. -/
def reachDatabase (settings : Settings) (surroundings : Surroundings σ) :
    Sim (Except Failure Unit) := do
  reportStart settings
  match ← Database.Pool.connect surroundings.peer surroundings.database surroundings.network
      surroundings.horizon settings.database with
  | (.error failure, _) => return .error (.ofPool failure)
  | (.ok _, _) =>
    Sim.log .info logTarget "Database connection established" []
    return .ok ()

/-- Reach the database, and consume if it is there. -/
def work (settings : Settings) (surroundings : Surroundings σ) (sessions : List Broker.Session) :
    Sim (Option (Except Failure Unit)) := do
  match ← reachDatabase settings surroundings with
  | .error failure => return some (.error failure)
  | .ok () => return (← consume settings surroundings.closing sessions).map .ok

/-- Run the service with its settings in its surroundings, with sessions with the broker. Nothing
comes of it if its pool is never closed. -/
def run (settings : Settings) (surroundings : Surroundings σ) (sessions : List Broker.Session) :
    Sim (Option (Except Failure Unit)) := do
  match ← startObservation settings surroundings.metricsRefusal with
  | .error failure => return some (.error failure)
  | .ok () => endObservation (← work settings surroundings sessions)

end EventLedger.Service
