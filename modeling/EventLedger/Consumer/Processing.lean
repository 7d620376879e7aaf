import EventLedger.Consumer
import EventLedger.Consumer.Delivery
import EventLedger.Event.Decoding

/-!
# Processing a delivery

A delivery is processed in one piece: its body is read, its event is stored within a limit of
time, its queue is told what to do with it, and the message is counted. The duration that is
counted covers reading and storing, not the settlement. A settlement that fails is only logged.
-/
namespace EventLedger.Consumer

/-- The component that logs. -/
def logTarget : String := "minichat_worker::consumer"

/-- What a consumer was doing when reading a body failed. -/
def readingOperation : EventKind → String
  | .usage => "parse_usage_event"
  | .audit => "parse_audit_event"

/-- What a consumer was doing when storing an event failed. -/
def storingOperation : EventKind → String
  | .usage => "persist_usage_event"
  | .audit => "persist_audit_event"

/-- What became of an event whose store answered. -/
def outcomeOf : Except StoreError Unit → Outcome
  | .ok () => .committed
  | .error error => .failed error

/-- Ask the store for an event, within a limit of time. An answer that comes with the limit is in
time. -/
def callStore (timeLimit : Nat) (event : Event) (response : StoreResponse) : Sim Outcome := do
  Sim.happen (.storeCalled event)
  perform response.opening
  Sim.stopIf response.stops
  match response.delay with
  | none =>
    Sim.wait timeLimit
    perform response.closing
    return .failed (.timeout (.ofMillis timeLimit))
  | some delay =>
    if delay ≤ timeLimit then
      Sim.wait delay
      Sim.happen .storeAnswered
      perform response.closing
      return outcomeOf response.answer
    else
      Sim.wait timeLimit
      perform response.closing
      return .failed (.timeout (.ofMillis timeLimit))

/-- Read a body and store its event. -/
def process (consumer : Consumer) (kind : EventKind) (body : Json.Bytes)
    (store : Event → StoreResponse) : Sim Outcome :=
  match Event.ofBody kind body with
  | .error error => pure (.invalid error)
  | .ok event => callStore consumer.timeLimit event (store event)

/-- The operation that failed, if one did. -/
def failedOperation? (kind : EventKind) : Outcome → Option String
  | .committed => none
  | .invalid _ => some (readingOperation kind)
  | .failed _ => some (storingOperation kind)

/-- What is logged about an outcome. -/
def outcomeRecord (consumer : Consumer) (kind : EventKind) (outcome : Outcome) : Log.Record :=
  let failed (operation : String) (fields : Log.Fields) : Log.Record :=
    { level := .error, target := logTarget, message := "消息处理失败", span := none,
      fields := ("operation", operation) ::
        ("requeue", Log.boolText (outcome.decision = .requeue)) :: fields }
  match outcome with
  | .committed =>
    { level := .debug, target := logTarget, message := "消息处理成功",
      fields := [("queue", consumer.queueName kind)], span := none }
  | .invalid error =>
    failed (readingOperation kind) [("reason", error.reason), ("error", error.message)]
  | .failed error => failed (storingOperation kind) [("error", error.message)]

/-- What is logged about a settlement that fails. -/
def settlementRecord (consumer : Consumer) (kind : EventKind) (outcome : Outcome)
    (reason : String) : Log.Record :=
  { level := .warn, target := logTarget, message := "消息确认失败", span := none,
    fields := [("queue", consumer.queueName kind),
      ("operation", (failedOperation? kind outcome).getD "ack"),
      ("decision", outcome.decision.text),
      ("error", (WorkerError.settlement reason).message)] }

/-- Tell the queue about a delivery. -/
def settle (consumer : Consumer) (delivery : Delivery) (outcome : Outcome)
    (settlement : Settlement) : Sim Unit := do
  Sim.happen (.settled delivery.tag outcome.decision)
  Sim.stopIf settlement.stops
  Sim.wait settlement.delay
  match settlement.failure with
  | none => pure ()
  | some reason =>
    Sim.happen (.logged (settlementRecord consumer delivery.kind outcome reason))

/-- Process a delivery, settle and count it; the error for which the worker cannot go on, if there
is one. -/
def dispatch (consumer : Consumer) (delivery : Delivery) (store : Event → StoreResponse)
    (settlement : Settlement) : Sim (Option StoreError) := do
  Sim.happen (.received delivery.kind delivery.tag delivery.body)
  let started := (← Sim.world).now
  let outcome ← process consumer delivery.kind delivery.body store
  let elapsed := (← Sim.world).now - started
  Sim.happen (.logged (outcomeRecord consumer delivery.kind outcome))
  settle consumer delivery outcome settlement
  Sim.happen (.measured (consumer.queueName delivery.kind) outcome.decision elapsed)
  return outcome.fatalError?

end EventLedger.Consumer
