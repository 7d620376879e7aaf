import EventLedger.Consumer.Loop
import EventLedger.Supervision

/-!
# Lifecycles

The life of a worker: supervised sessions that consume deliveries, or that take some time and end
with a given result.
-/
namespace EventLedger.Lifecycle

/-- What an attempt does. -/
inductive Session where
  /-- Consume what arrives. -/
  | consume (wakes : List Consumer.Wake)
  /-- Wait, then wait for the signal if it shall, and end. -/
  | plain (delay : Nat) (waitsForSignal : Bool) (result : Except WorkerError Unit)

/-- Run an attempt. -/
def runSession (consumer : Consumer) : Session → Sim (Except WorkerError Unit)
  | .consume wakes => do
    let done ← Consumer.loop consumer wakes
    return done.result
  | .plain delay waitsForSignal result => do
    Sim.wait delay
    if waitsForSignal then Sim.waitForSignal
    return result

/-- Supervise sessions. -/
def run (consumer : Consumer) (retryDelay : Nat)
    (attempts : List (Supervision.Attempt Session)) :
    Sim (SupervisionEnd × List (Supervision.Attempt Session)) :=
  Supervision.supervise retryDelay (runSession consumer) attempts

end EventLedger.Lifecycle
