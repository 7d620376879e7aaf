import EventLedger.Consumer.Processing

/-!
# The loop of a consumer

A consumer takes one arrival after another and deals with each before the next. It ends well when
it is asked to stop, or when nobody is left who could ask, and only while it waits; it ends with
an error when the deliveries of a queue fail or end, or when the store has ended.
-/
namespace EventLedger.Consumer

/-- What comes of one turn of a loop. -/
inductive Turn where
  /-- The arrival has been dealt with, and the loop goes on. -/
  | goesOn
  /-- The loop has ended well without taking anything. -/
  | declined
  /-- The loop has ended with the arrival. -/
  | ended (result : Except WorkerError Unit)
  /-- Nothing arrives any more, and the loop waits for ever. -/
  | stuck

/-- Say that the loop stops. -/
def reportStop : Sim Unit := Sim.log .info logTarget "worker 消费者停止" []

/-- Stop without taking anything. -/
def decline : Sim Turn := do
  reportStop
  return .declined

/-- Deal with an arrival. -/
def take (consumer : Consumer) : Arrival → Sim Turn
  | .signal change => do
    Sim.signal change .operator
    reportStop
    return .ended (.ok ())
  | .failure kind reason => do
    Sim.happen (.took kind)
    return .ended (.error (.consume (consumer.queueName kind) reason))
  | .closed kind => do
    Sim.happen (.took kind)
    return .ended (.error (.streamClosed (consumer.queueName kind)))
  | .delivery delivery store settlement => do
    Sim.happen (.took delivery.kind)
    match ← dispatch consumer delivery store settlement with
    | some error => return .ended (.error (.store error))
    | none => return .goesOn

/-- Wait for the signal or the next arrival, and deal with it. -/
def turn (consumer : Consumer) (wake? : Option Wake) : Sim Turn := do
  if (← Sim.world).isStopped then decline
  else
    match wake? with
    | some wake =>
      if ← Sim.waitUnlessSignalled wake.delay wake.tie then decline
      else take consumer wake.arrival
    | none =>
      if (← Sim.world).signalTime?.isSome then
        Sim.waitForSignal
        decline
      else return .stuck

/-- How a loop ended, and the arrivals that it did not take. -/
structure LoopEnd where
  /-- The result of the loop. -/
  result : Except WorkerError Unit
  /-- What was not taken. -/
  unread : List Wake

/-- Consume. When nothing more arrives, the surroundings ask for a stop. -/
def loop (consumer : Consumer) : List Wake → Sim LoopEnd
  | [] => do
    Sim.stopIf !(← Sim.world).isStopped
    reportStop
    return { result := .ok (), unread := [] }
  | wake :: rest => do
    match ← turn consumer (some wake) with
    | .goesOn => loop consumer rest
    | .ended result => return { result, unread := rest }
    | .declined | .stuck => return { result := .ok (), unread := wake :: rest }

end EventLedger.Consumer
