import EventLedger.Broker.Visit
import EventLedger.Service
import EventLedger.Supervision.Course

/-!
# Watching the service

The service meets one visit to its broker after another, without end. It is watched for a number of
visits, and the loop of each visit for a number of turns; nothing comes of a service that has not
ended as far as it is watched.
-/
namespace EventLedger.Service

open Broker (Visit)
open Supervision (Attempt)

variable {σ : Type}

/-- How far the service is watched, and what it meets until then. -/
structure Outlook where
  /-- The visits to the broker by their numbers. -/
  visits : Nat → Attempt Visit
  /-- The number of turns for which the loop of a visit is watched. -/
  turns : Nat
  /-- The number of visits that are watched. -/
  watched : Nat

/-- Watch the service supervise its visits. -/
def supervision (settings : Settings) (outlook : Outlook) : Sim (Option SupervisionEnd) :=
  let visit := Visit.run settings.consumer settings.broker.prefetch outlook.turns
  Supervision.course settings.worker.retryDelayMillis.toNat visit outlook.visits outlook.watched 0

/-- Watch the service consume. -/
def watchConsume (settings : Settings) (closing : Option Nat) (outlook : Outlook) :
    Sim (Option Unit) := do
  match ← supervision settings outlook with
  | none => return none
  | some ending => shutDown closing ending

/-- Watch the service reach its database and consume. -/
def watchWork (settings : Settings) (surroundings : Surroundings σ) (outlook : Outlook) :
    Sim (Option (Except Failure Unit)) := do
  match ← reachDatabase settings surroundings with
  | .error failure => return some (.error failure)
  | .ok () => return (← watchConsume settings surroundings.closing outlook).map .ok

/-- Watch the service run with its settings. -/
def watchRun (settings : Settings) (surroundings : Surroundings σ) (outlook : Outlook) :
    Sim (Option (Except Failure Unit)) := do
  match ← startObservation settings surroundings.metricsRefusal with
  | .error failure => return some (.error failure)
  | .ok () => endObservation (← watchWork settings surroundings outlook)

/-- Watch the service in an environment with files. -/
def watch (formats : Settings.Formats) (environment : Settings.Environment) (files : FileTree)
    (surroundings : Surroundings σ) (outlook : Outlook) : Sim (Option (Except Failure Unit)) :=
  match load formats environment files with
  | .error failure => return some (.error failure)
  | .ok settings => watchRun settings surroundings outlook

end EventLedger.Service
