import EventLedger.Journal

/-!
# Metrics

What is counted: the sessions that failed, and the messages of each queue by what the queue was
told about them, each with its duration. The metrics of a run are a view of its journal.
-/
namespace EventLedger

/-- Something that is counted. -/
inductive Counter where
  /-- Sessions that failed. -/
  | restarts
  /-- Messages of a queue about which it was told the same. -/
  | messages (queue : String) (decision : Decision)
  deriving DecidableEq, Repr

/-- The name of the durations. -/
def durationName : String := "worker_message_duration_seconds"

/-- The name of a counter. -/
def Counter.name : Counter → String
  | .restarts => "worker_loop_restarts_total"
  | .messages _ _ => "worker_messages_total"

/-- The labels of a counter, in the order of their names. -/
def Counter.labels : Counter → List (String × String)
  | .restarts => []
  | .messages queue decision => [("outcome", decision.text), ("queue", queue)]

/-- Values counted and measured. -/
structure Metrics where
  /-- The counters that have been raised, with their values. -/
  counters : List (Counter × Nat)
  /-- The durations in milliseconds of each queue's messages, in order. -/
  durations : List (String × List Nat)
  deriving Repr

namespace Metrics

/-- Nothing counted yet. -/
def empty : Metrics := ⟨[], []⟩

/-- Change the value of a key, or put one there. -/
def upsert {κ α : Type} [DecidableEq κ] (key : κ) (first : α) (change : α → α) :
    List (κ × α) → List (κ × α)
  | [] => [(key, first)]
  | (other, value) :: rest =>
    if other = key then (key, change value) :: rest
    else (other, value) :: upsert key first change rest

/-- Raise a counter by one. -/
def raise (metrics : Metrics) (counter : Counter) : Metrics :=
  { metrics with counters := upsert counter 1 (· + 1) metrics.counters }

/-- Count a session that failed. -/
def addRestart (metrics : Metrics) : Metrics := metrics.raise .restarts

/-- Count a message of a queue and what the queue was told, and add its duration. -/
def addMessage (metrics : Metrics) (queue : String) (decision : Decision) (millis : Nat) :
    Metrics :=
  let counted := metrics.raise (.messages queue decision)
  { counted with durations := upsert queue [millis] (· ++ [millis]) counted.durations }

/-- The metrics after an occurrence. -/
def add (metrics : Metrics) : Occurrence → Metrics
  | .failureCounted => metrics.addRestart
  | .measured queue decision millis => metrics.addMessage queue decision millis
  | _ => metrics

/-- The metrics of a run. -/
def ofJournal (journal : Journal) : Metrics :=
  journal.foldl (fun metrics entry => metrics.add entry.what) empty

/-- The value of a counter. -/
def count (metrics : Metrics) (counter : Counter) : Nat :=
  (metrics.counters.lookup counter).getD 0

/-- The durations of a queue's messages. -/
def durationsOf (metrics : Metrics) (queue : String) : List Nat :=
  (metrics.durations.lookup queue).getD []

end Metrics

end EventLedger
